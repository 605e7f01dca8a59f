import NetgearSwitch.Errors
import NetgearSwitch.Http.Endpoints
import NetgearSwitch.Lib.Conversation
import NetgearSwitch.Lib.Md5
import NetgearSwitch.Lib.PyDict
import NetgearSwitch.Lib.PyRe

/-!
# Web-UI sessions

`transport/http/client.py`: the synchronous and the asynchronous client of a switch's web
interface, with the helpers of `protocols/http` they open a session with.

One call of the HTTP library is one exchange: the server answers a request with a response, or
the library raises.  What a response, or the redirects on the way to it, leave in the cookie jar
is part of the answer, so that a server may leave any jar.
-/

namespace NetgearSwitch.Http

open Conversation PyText

/-! ## §1 What is sent and what comes back -/

/-- The cookie jar of the HTTP library. -/
class CookieJar (J : Type) where
  empty : J
  /-- `name in jar`: none where the jar has that name twice, which raises. -/
  contains : J → Text → Option Bool
  set : J → Text → Text → J
  /-- Take every cookie of that name out. -/
  delete : J → Text → J

/-- The jar of cookies that all belong to the one host. -/
instance : CookieJar (PyDict Text Text) where
  empty := ∅
  contains jar name := some (name ∈ jar)
  set := PyDict.set
  delete := PyDict.pop

inductive Method
  | get
  | post
  deriving DecidableEq, Repr

/-- `MultipartFile`. -/
structure MultipartFile where
  field : Text
  filename : Text
  content : Bytes
  contentType : Text
  deriving DecidableEq

inductive RequestBody
  | none
  | form (data : PyDict Text Text)
  | multipart (data : PyDict Text Text) (file : MultipartFile)
  | content (bytes : Bytes) (contentType : Text)
  deriving DecidableEq

structure Request where
  method : Method
  url : Text
  params : Option (PyDict Text Text) := none
  body : RequestBody := .none
  headers : List (Text × Text) := []
  followRedirects : Bool := true
  deriving DecidableEq

/-- Which line of a client sends a request. -/
inductive Purpose
  /-- The first request of a login. -/
  | loginPage
  /-- The second. -/
  | loginSubmit
  | read
  | write
  deriving DecidableEq, Repr

/-- A request with the cookies that go with it. -/
structure Sent (J : Type) where
  purpose : Purpose
  request : Request
  cookies : J
  deriving DecidableEq

structure Response where
  status : ℕ
  text : Text
  /-- The `Location` header, empty where there is none. -/
  location : Text := []
  /-- The `sessionID` header, empty where there is none. -/
  sessionId : Text := []
  deriving DecidableEq

/-- How the HTTP library ends one request. -/
inductive Outcome
  | response (response : Response)
  /-- `RemoteProtocolError`: the connection was dropped. -/
  | dropped
  /-- Any other `HTTPError`. -/
  | transportError
  /-- `InvalidURL`, which is no `HTTPError`. -/
  | invalidUrl
  deriving DecidableEq

structure Answer (J : Type) where
  outcome : Outcome
  cookies : J
  deriving DecidableEq

/-- `except httpx.HTTPError`: a dropped connection among them. -/
def Outcome.orHttpError : Outcome → Except LibError Response
  | .response r => .ok r
  | .dropped => .error .http
  | .transportError => .error .http
  | .invalidUrl => .error .httpxInvalidUrl

/-! ## §2 Helpers the two clients share -/

def quoteMark (c : Char) : Bool := c = '"' || c = '\''

/-- `["']?` -/
def optQuote {α : Type} : PyRe.Rest α → PyRe.Rest α := PyRe.opt fun k => PyRe.one quoteMark fun _ => k

/-- `["']([^"']*)["']` -/
def quoted : PyRe.Rest Text :=
  PyRe.one quoteMark fun _ => PyRe.many (fun c => !quoteMark c) fun value =>
    PyRe.one quoteMark fun _ _ => some value

/-- The value of the first input whose attribute names it so. -/
def inputValue (key name : String) : Text → Option Text :=
  PyRe.search <| PyRe.lit key <| PyRe.one quoteMark fun _ => PyRe.lit name <|
    PyRe.one quoteMark fun _ => PyRe.many (· ≠ '>') fun _ => PyRe.lit "value=" quoted

/-- `parse_login_rand`. -/
def parseLoginRand : Text → Option Text := inputValue "id=" "rand"

/-- `parse_csrf_hash`. -/
def parseCsrfHash : Text → Option Text := inputValue "name=" "hash"

/-- `parse_gambit_token`. -/
def parseGambitToken : Text → Option Text := inputValue "name=" "Gambit"

/-- `_cheetah_csrf_token`. -/
def cheetahCsrfToken : Text → Option Text :=
  PyRe.search <| PyRe.alt
    (PyRe.litI "name=" <| optQuote <| PyRe.litI "CSRFToken" <| optQuote <|
      PyRe.manyLazy (· ≠ '>') fun _ => PyRe.litI "value=" quoted)
    (PyRe.litI "value=" <| PyRe.one quoteMark fun _ =>
      PyRe.many (fun c => !quoteMark c) fun value => PyRe.one quoteMark fun _ =>
        PyRe.manyLazy (· ≠ '>') fun _ => PyRe.litI "name=" <| optQuote <|
          PyRe.litI "CSRFToken" fun _ => some value)

/-- `merge`: the two texts interleaved character by character. -/
def merge : Text → Text → Text
  | [], t => t
  | s, [] => s
  | c :: s, d :: t => c :: d :: merge s t

/-- `merge_hash_md5`. -/
def mergeHashMd5 (password rand : Text) : Text :=
  Md5.hexdigest (PyCodec.utf8Encode (merge password rand))

/-- `_login_body`. -/
def loginBody (spec : HttpModelSpec) (password page : Text) : Except LibError (PyDict Text Text) :=
  match spec.scheme with
  | .cheetahV1 =>
    let username := match spec.usernameField with
      | none | some [] => "uname".toList
      | some field => field
    let body := ((∅ : PyDict Text Text).set username spec.username).set spec.passwordField password
    match cheetahCsrfToken page with
    | none => .ok body
    | some token => .ok (body.set "CSRFToken".toList token)
  | .cheetahForm =>
    let body := (∅ : PyDict Text Text).set spec.passwordField password
    match spec.usernameField with
    | none => .ok body
    | some field => .ok (body.set field spec.username)
  | _ =>
    let hashed (rand : Text) : PyDict Text Text :=
      (∅ : PyDict Text Text).set spec.passwordField (mergeHashMd5 password rand)
    if spec.needsRand then
      match parseLoginRand page with
      | none | some [] => .error .httpUnexpectedPage
      | some rand => .ok (hashed rand)
    else .ok (hashed [])

/-- `_xml_api_session_path`: `/([A-Za-z0-9]+)/` in the redirect. -/
def xmlApiSessionPath (r : Response) : Except LibError Text :=
  orRaise .httpAuth <| (PyRe.search <| PyRe.lit "/" <| PyRe.many1 Char.isAlphanum fun path =>
    PyRe.lit "/" fun _ => some path) r.location

/-- `<statusCode>(\d+)</statusCode>`. -/
def xmlApiStatus : Text → Option Text :=
  PyRe.search <| PyRe.lit "<statusCode>" <| PyRe.many1 isDecimal fun code =>
    PyRe.lit "</statusCode>" fun _ => some code

/-- `_xml_api_session_lost`. -/
def xmlApiSessionLost (spec : HttpModelSpec) (text : Text) : Except LibError Bool :=
  if spec.scheme ≠ .xmlApi then .ok false
  else match xmlApiStatus text with
    | none => .ok false
    | some code => (orRaise .valueError (intOfDecimals code)).map (· = 4)

/-- `quote`: every byte but those of letters, digits and `_.-~/` as `%XX`. -/
def quote (t : Text) : Text :=
  (PyCodec.utf8Encode t).flatMap fun x =>
    let c := Char.ofNat x.toNat
    if (x < 128 && c.isAlphanum) || c ∈ "_.-~/".toList then [c]
    else '%' :: [x.toNat / 16, x.toNat % 16].map fun d => (Nat.digitChar d).toUpper

/-- `_xml_api_login_url`. -/
def xmlApiLoginUrl (spec : HttpModelSpec) (sessionPath password : Text) : Text :=
  '/' :: sessionPath ++ "/System.xml?action=login".toList ++ "&user=".toList ++
    quote spec.username ++ "&password=".toList ++ quote password

/-- `_extract_session_token`. -/
def extractSessionToken (page : Text) : Except LibError Text :=
  match parseGambitToken page with
  | none | some [] => .error .httpAuth
  | some token => .ok token

/-- `_token_params`. -/
def tokenParams (spec : HttpModelSpec) (token : Text) : Option (PyDict Text Text) :=
  spec.sessionTokenField.map fun field => (∅ : PyDict Text Text).set field token

/-- A form's data with `_token_form_field`. -/
def withToken (spec : HttpModelSpec) (token : Text) (data : PyDict Text Text) :
    PyDict Text Text :=
  match spec.sessionTokenField with
  | none => data
  | some field => data.set field token

/-- `"redirect to login" in text.lower()`: no character but an ASCII one has one of these letters,
and nothing else, as its lower case. -/
def redirectsToLogin (text : Text) : Bool :=
  PyRe.occurs "redirect to login".toList (text.map Char.toLower)

/-- The client looks at the two sides of a character of no use to it. -/
theorem redirectsToLogin_append_cons {c : Char} (hc : c.toLower ∉ "redirect to login".toList)
    (a b : Text) :
    redirectsToLogin (a ++ c :: b) = (redirectsToLogin a || redirectsToLogin b) := by
  rw [redirectsToLogin, List.map_append, List.map_cons, PyRe.occurs_append_cons (by decide) hc]
  rfl

/-- A text of one word is not taken for the login page. -/
theorem redirectsToLogin_of_not_mem {t : Text} (h : ' ' ∉ t) : redirectsToLogin t = false := by
  rw [redirectsToLogin, Bool.eq_false_iff, Ne, PyRe.occurs_iff (by decide)]
  intro hinfix
  have hmem : ' ' ∈ t.map Char.toLower := hinfix.subset (by decide)
  obtain ⟨c, hct, hc⟩ := List.mem_map.mp hmem
  delta Char.toLower at hc
  split_ifs at hc with hupper
  · have hval := congrArg Char.val hc
    have hlow : 65 ≤ c.val.toNat := hupper.1
    have hhigh : c.val.toNat ≤ 90 := hupper.2
    have hnat := congrArg UInt32.toNat hval
    change (c.val + 32).toNat = 32 at hnat
    rw [UInt32.toNat_add] at hnat
    change (c.val.toNat + 32) % 2 ^ 32 = 32 at hnat
    omega
  · exact h (hc ▸ hct)

/-- `_validate_response`, of a page read in mid-session where `read` says so. -/
def validateResponse (read : Bool) (r : Response) : Except LibError Unit :=
  if 400 ≤ r.status then .error .http
  else if read && redirectsToLogin r.text then .error .httpAuth
  else .ok ()

section Jar

variable {J : Type} [CookieJar J]

/-- `_check_authed`. -/
def checkAuthed (spec : HttpModelSpec) (cookies : J) : Except LibError Unit :=
  match CookieJar.contains cookies spec.cookieName with
  | none => .error .httpxCookieConflict
  | some false => .error .httpAuth
  | some true => .ok ()

/-- `_apply_xml_api_login`. -/
def applyXmlApiLogin (spec : HttpModelSpec) (r : Response) (cookies : J) : Except LibError J :=
  if !PyRe.occurs "<statusCode>0</statusCode>".toList r.text then .error .httpAuth
  else if r.sessionId = [] then .error .httpAuth
  else
    .ok (CookieJar.set (CookieJar.set (CookieJar.set cookies "userStatus".toList "ok".toList)
      "usernme".toList spec.username) spec.cookieName r.sessionId)

end Jar

/-! ## §3 The clients

The two clients are written out twice in the source.  Where their texts agree the part is named
once; `HttpClient` and `AsyncHttpClient` have the bodies that do not. -/

/-- The constructor's arguments. -/
structure SessionConfig where
  host : Text
  password : Text
  spec : HttpModelSpec
  secure : Bool := false

namespace SessionConfig

/-- `_referer_headers`. -/
def refererHeaders (cfg : SessionConfig) : List (Text × Text) :=
  if !cfg.spec.needsReferer then []
  else
    let origin := (if cfg.secure then "https".toList else "http".toList) ++ "://".toList ++ cfg.host
    [("Referer".toList, origin ++ ['/']), ("Origin".toList, origin)]

end SessionConfig

/-- What a client object holds. -/
structure Session (J : Type) where
  cookies : J
  loggedIn : Bool := false
  token : Text := []
  sessionPath : Text := []
  deriving DecidableEq

/-- A method of a client. -/
abbrev SessionProgram (J α : Type) := Program (Session J) (Sent J) (Answer J) LibError α

section Clients

variable {J : Type}

/-- A new client. -/
def Session.new [CookieJar J] : Session J := { cookies := CookieJar.empty }

/-- A request with the headers of the client and the cookies of its jar. -/
def outgoing (cfg : SessionConfig) (purpose : Purpose) (request : Request) (c : Session J) :
    Sent J :=
  ⟨purpose, { request with headers := cfg.refererHeaders }, c.cookies⟩

/-- One request of the HTTP library; it leaves a new jar. -/
def send (cfg : SessionConfig) (purpose : Purpose) (request : Request) :
    SessionProgram J Outcome := fun serve c =>
  let answer := serve [outgoing cfg purpose request c]
  ⟨.ok answer.outcome, { c with cookies := answer.cookies },
    [(outgoing cfg purpose request c, answer)]⟩

/-- A request whose `HTTPError`s are `HttpError`s. -/
def sendOrRaise (cfg : SessionConfig) (purpose : Purpose) (request : Request) :
    SessionProgram J Response :=
  send cfg purpose request >>= fun outcome => Program.ofExcept outcome.orHttpError

theorem sendOrRaise_apply (cfg : SessionConfig) (purpose : Purpose) (request : Request)
    (serve : Server (Sent J) (Answer J)) (c : Session J) :
    sendOrRaise cfg purpose request serve c =
      let answer := serve [outgoing cfg purpose request c]
      ⟨answer.outcome.orHttpError, { c with cookies := answer.cookies },
        [(outgoing cfg purpose request c, answer)]⟩ :=
  rfl

/-- `_retry_on_dropped_connection` with `tries` left. -/
def retryOnDroppedConnection (send : SessionProgram J Outcome) : ℕ → SessionProgram J Response
  | 0 => Program.raise .http
  | tries + 1 => send >>= fun outcome =>
    match outcome with
    | .dropped => retryOnDroppedConnection send tries
    | outcome => Program.ofExcept outcome.orHttpError

/-- `_DROPPED_CONNECTION_RETRIES`. -/
def droppedConnectionRetries : ℕ := 2

/-- `_read_url`. -/
def readUrl (cfg : SessionConfig) (c : Session J) (path : Text) : Text :=
  if cfg.spec.scheme = .xmlApi then '/' :: c.sessionPath ++ '/' :: path else path

/-- One attempt of `get_page`: a GET, tried again while the connection drops. -/
def readAttempt (cfg : SessionConfig) (path : Text) (params : Option (PyDict Text Text)) :
    SessionProgram J Response := do
  let c ← Program.state
  let request : Request := { method := .get, url := readUrl cfg c path, params := params }
  let r ← retryOnDroppedConnection (send cfg .read request) (droppedConnectionRetries + 1)
  Program.ofExcept (validateResponse true r)
  pure r

/-- The one POST of a write. -/
def writeOnce (cfg : SessionConfig) (request : Session J → Request) :
    SessionProgram J Response := do
  let c ← Program.state
  let r ← sendOrRaise cfg .write (request c)
  Program.ofExcept (validateResponse false r)
  pure r

/-- `if not self._logged_in: self.login()`. -/
def ensureLogin (login : SessionProgram J Unit) : SessionProgram J Unit :=
  Program.state >>= fun c => if c.loggedIn then pure () else login

/-- The POST of `post_form`. -/
def formRequest (cfg : SessionConfig) (path : Text) (data : PyDict Text Text) (c : Session J) :
    Request :=
  { method := .post, url := path, body := .form (withToken cfg.spec c.token data) }

/-- The POST of `post_multipart`. -/
def multipartRequest (cfg : SessionConfig) (path : Text) (data : PyDict Text Text)
    (file : MultipartFile) (c : Session J) : Request :=
  { method := .post
    url := path
    body := .multipart (withToken cfg.spec c.token data) file }

/-- The POST of `post_xml`. -/
def xmlRequest (cfg : SessionConfig) (path body : Text) (c : Session J) : Request :=
  { method := .post
    url := readUrl cfg c path
    body := .content (PyCodec.utf8Encode body) "application/xml; charset=utf-8".toList }

variable [CookieJar J]

/-- How a form login ends: with the token of the page, or with the cookie in the jar. -/
def finishLogin (cfg : SessionConfig) (r : Response) : SessionProgram J Unit :=
  match cfg.spec.sessionTokenField with
  | some _ => do
    let token ← Program.ofExcept (extractSessionToken r.text)
    Program.modify fun c => { c with token := token, loggedIn := true }
  | none => do
    let c ← Program.state
    Program.ofExcept (checkAuthed cfg.spec c.cookies)
    Program.modify fun c => { c with loggedIn := true }

/-- `login` but for the XML API. -/
def formLogin (cfg : SessionConfig) : SessionProgram J Unit := do
  let page ← sendOrRaise cfg .loginPage { method := .get, url := cfg.spec.loginPath }
  Program.ofExcept (validateResponse false page)
  let body ← Program.ofExcept (loginBody cfg.spec cfg.password page.text)
  let r ← sendOrRaise cfg .loginSubmit
    { method := .post
      url := match cfg.spec.loginPostPath with
        | none | some [] => cfg.spec.loginPath
        | some path => path
      body := .form body }
  Program.ofExcept (validateResponse false r)
  finishLogin cfg r

/-- The requests of `_xml_api_login`. -/
def xmlApiHandshake (cfg : SessionConfig) : SessionProgram J Unit := do
  let redirect ← sendOrRaise cfg .loginPage
    { method := .get, url := cfg.spec.loginPath, followRedirects := false }
  let sessionPath ← Program.ofExcept (xmlApiSessionPath redirect)
  Program.modify fun c => { c with sessionPath := sessionPath }
  let r ← sendOrRaise cfg .loginSubmit
    { method := .get, url := xmlApiLoginUrl cfg.spec sessionPath cfg.password }
  Program.ofExcept (validateResponse false r)
  let c ← Program.state
  let cookies ← Program.ofExcept (applyXmlApiLogin cfg.spec r c.cookies)
  Program.modify fun c => { c with cookies := cookies, loggedIn := true }

/-- The cookies of a dead session go first. -/
def dropStale (cookies : J) : J :=
  ["userStatus".toList, "usernme".toList, "sessionID".toList].foldl CookieJar.delete cookies

namespace HttpClient

/-- `_xml_api_login` -/
def xmlApiLogin (cfg : SessionConfig) : SessionProgram J Unit := do
  Program.modify fun c => { c with cookies := dropStale c.cookies }
  xmlApiHandshake cfg

/-- `login` -/
def login (cfg : SessionConfig) : SessionProgram J Unit :=
  if cfg.spec.scheme = .xmlApi then xmlApiLogin cfg else formLogin cfg

/-- The second attempt of `get_page`, after a page that says the session is lost. -/
def readAgain (cfg : SessionConfig) (path : Text) (params : Option (PyDict Text Text)) :
    SessionProgram J Text := do
  Program.modify fun c => { c with loggedIn := false }
  login cfg
  let r ← readAttempt cfg path params
  let lost ← Program.ofExcept (xmlApiSessionLost cfg.spec r.text)
  if lost then Program.raise .httpAuth else pure r.text

/-- `get_page` -/
def getPage (cfg : SessionConfig) (path : Text) : SessionProgram J Text := do
  ensureLogin (login cfg)
  let c ← Program.state
  let params := tokenParams cfg.spec c.token
  let r ← readAttempt cfg path params
  let lost ← Program.ofExcept (xmlApiSessionLost cfg.spec r.text)
  if lost then readAgain cfg path params else pure r.text

/-- `post_form` -/
def postForm (cfg : SessionConfig) (path : Text) (data : PyDict Text Text) :
    SessionProgram J Text := do
  ensureLogin (login cfg)
  let r ← writeOnce cfg (formRequest cfg path data)
  pure r.text

/-- `post_multipart` -/
def postMultipart (cfg : SessionConfig) (path : Text) (data : PyDict Text Text)
    (file : MultipartFile) : SessionProgram J Text := do
  ensureLogin (login cfg)
  let r ← writeOnce cfg (multipartRequest cfg path data file)
  pure r.text

/-- `post_xml`: a session that is lost is said to be, and the write not sent again. -/
def postXml (cfg : SessionConfig) (path body : Text) : SessionProgram J Text := do
  ensureLogin (login cfg)
  let r ← writeOnce cfg (xmlRequest cfg path body)
  let lost ← Program.ofExcept (xmlApiSessionLost cfg.spec r.text)
  if lost then Program.raise .httpAuth else pure r.text

end HttpClient

namespace AsyncHttpClient

/-- `_xml_api_login` -/
def xmlApiLogin (cfg : SessionConfig) : SessionProgram J Unit := xmlApiHandshake cfg

/-- `login` -/
def login (cfg : SessionConfig) : SessionProgram J Unit :=
  if cfg.spec.scheme = .xmlApi then xmlApiLogin cfg else formLogin cfg

/-- `get_page` -/
def getPage (cfg : SessionConfig) (path : Text) : SessionProgram J Text := do
  ensureLogin (login cfg)
  let c ← Program.state
  let r ← readAttempt cfg path (tokenParams cfg.spec c.token)
  pure r.text

/-- `post_form` -/
def postForm (cfg : SessionConfig) (path : Text) (data : PyDict Text Text) :
    SessionProgram J Text := do
  ensureLogin (login cfg)
  let r ← writeOnce cfg (formRequest cfg path data)
  pure r.text

/-- `post_multipart` -/
def postMultipart (cfg : SessionConfig) (path : Text) (data : PyDict Text Text)
    (file : MultipartFile) : SessionProgram J Text := do
  ensureLogin (login cfg)
  let r ← writeOnce cfg (multipartRequest cfg path data file)
  pure r.text

/-- `post_xml` -/
def postXml (cfg : SessionConfig) (path body : Text) : SessionProgram J Text := do
  ensureLogin (login cfg)
  let r ← writeOnce cfg (xmlRequest cfg path body)
  pure r.text

end AsyncHttpClient

end Clients

/-- Which of the two clients. -/
inductive ClientKind
  | sync
  | async
  deriving DecidableEq, Repr

/-- A call on a client. -/
inductive Call
  | getPage (path : Text)
  | postForm (path : Text) (data : PyDict Text Text)
  | postMultipart (path : Text) (data : PyDict Text Text) (file : MultipartFile)
  | postXml (path body : Text)
  deriving DecidableEq

def Call.isRead : Call → Bool
  | .getPage _ => true
  | _ => false

/-- The method a call runs. -/
def Call.program {J : Type} [CookieJar J] (cfg : SessionConfig) :
    ClientKind → Call → SessionProgram J Text
  | .sync, .getPage path => HttpClient.getPage cfg path
  | .sync, .postForm path data => HttpClient.postForm cfg path data
  | .sync, .postMultipart path data file => HttpClient.postMultipart cfg path data file
  | .sync, .postXml path body => HttpClient.postXml cfg path body
  | .async, .getPage path => AsyncHttpClient.getPage cfg path
  | .async, .postForm path data => AsyncHttpClient.postForm cfg path data
  | .async, .postMultipart path data file => AsyncHttpClient.postMultipart cfg path data file
  | .async, .postXml path body => AsyncHttpClient.postXml cfg path body

end NetgearSwitch.Http
