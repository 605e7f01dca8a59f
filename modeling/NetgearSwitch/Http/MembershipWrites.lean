import NetgearSwitch.Http.MembershipPage
import NetgearSwitch.Http.PlusMembership

/-!
# The VLAN a membership write is made for

`HttpWriter.set_vlan_membership` as it goes for the models whose membership page is HTML, against
a device that may answer with any pages.  A write submits the codes of every port of one VLAN:
those of the page it was given, but for the code of the one port.  So it is safe only where that
page shows the VLAN which the form names.

§1 the FASTPATH form · §2 the writer · §3 the VLAN a page shows · §4 a FASTPATH write · §5 a Plus
write · §6 both
-/

namespace NetgearSwitch.Http

open PyText PyRe Script

/-! ## §1 The FASTPATH form -/

/-- `fastpath_membership_form`. -/
def fastpathMembershipForm (page : FastpathMembership) (vlan : ℤ) (hiddenMem : Option Text)
    (apply : Bool) : PyDict Text Text :=
  let body := (((page.fields.set "vlanId".toList (intText vlan)).set "hiddenTagged".toList []).set
    "hiddenUnTagged".toList []).set "submt".toList (if apply then "16".toList else "0".toList)
  match hiddenMem with
  | none => body
  | some codes => body.set "hiddenMem".toList codes

/-- `name="err_FIELD"[^>]*value="([^"]*)"` under `IGNORECASE`. -/
def errInputRe (T : PageTables) (field : String) : Rest Text :=
  foldLit T "name" <| lit "=\"" <| foldLit T "err" <| lit "_" <| foldLit T field <| lit "\"" <|
    many (isNot '>') fun _ => foldLit T "value" <| lit "=\"" <| many (isNot '"') fun value =>
      lit "\"" fun _ => some value

/-- The message behind an error flag. -/
def errMessage (T : PageTables) (flag html : Text) : Except LibError Text := do
  let text ← match search (errInputRe T "msg") html with
    | none => .ok []
    | some msg => (unescape T msg).map strip
  .ok (if text = [] then "err_flag=".toList ++ flag ++ " with no err_msg".toList else text)

/-- `parse_fastpath_err`. -/
def parseFastpathErr (T : PageTables) (html : Text) : Except LibError (Option Text) :=
  match search (errInputRe T "flag") html with
  | none => .ok none
  | some flag =>
    if strip flag = [] ∨ strip flag = ['0'] then .ok none else (errMessage T flag html).map some

/-- `_raise_on_fastpath_err_flag`. -/
def raiseOnFastpathErrFlag (T : PageTables) (html : Text) : Except LibError Unit := do
  let flag ← parseFastpathErr T html
  if flag.isSome then .error .http else .ok ()

/-- What a dictionary over the ports of a page has of a port. -/
def atPort {α : Type} (d : PyDict ℕ α) (port : ℤ) : Option α :=
  if 0 ≤ port then d.get? port.toNat else none

/-- `fastpath_hidden_mem_with` of any port; the page has none below 0. -/
def fastpathCodesWith (page : FastpathMembership) (port : ℤ) (mode : VlanMode) :
    Except LibError Text :=
  if 0 ≤ port then fastpathHiddenMemWith page port.toNat mode else .error .httpUnexpectedPage

/-! ## §2 The writer -/

/-- `page.vlan_id == vlan`. -/
def FastpathMembership.ShowsVlan (page : FastpathMembership) (vlan : ℤ) : Prop :=
  page.vlanId.map (fun v : ℕ => (v : ℤ)) = some vlan

instance (page : FastpathMembership) (vlan : ℤ) : Decidable (page.ShowsVlan vlan) :=
  inferInstanceAs (Decidable (_ = _))

/-- `_require_fastpath_membership_for`. -/
def requireFastpathMembershipFor (page : FastpathMembership) (vlan : ℤ) : HttpScript Unit :=
  ensure (page.vlanId = none ∨ page.ShowsVlan vlan) .httpUnexpectedPage

/-- The page after the form has been posted for the VLAN. -/
def selectFastpathMembership (T : PageTables) (page : FastpathMembership) (vlan : ℤ)
    (postPath : Text) : HttpScript FastpathMembership := do
  let html ← sessionCall (.postForm postPath (fastpathMembershipForm page vlan none false))
  let shown ← done (parseFastpathMembership T html)
  requireFastpathMembershipFor shown vlan
  pure shown

/-- `_read_fastpath_membership`. -/
def readFastpathMembership (T : PageTables) (vlan : ℤ) (getPath postPath : Text) :
    HttpScript FastpathMembership := do
  let html ← sessionCall (.getPage getPath)
  let page ← done (parseFastpathMembership T html)
  if page.ShowsVlan vlan then pure page else selectFastpathMembership T page vlan postPath

/-- The writer of a model whose membership page is HTML: FASTPATH or Plus. -/
structure HtmlWriter where
  modelKey : ModelKey
  spec : HttpModelSpec
  isSpec : httpSpec modelKey = some spec
  isHtml : spec.isXmlApiDialect = false
  protectedPorts : Finset ℤ := ∅

namespace HtmlWriter

variable (w : HtmlWriter)

/-- The part of the writer that serves the Plus models. -/
def plus (h : w.spec.isFastpathDialect = false) : PlusWriter :=
  { modelKey := w.modelKey
    spec := w.spec
    isSpec := w.isSpec
    isPlus := ⟨h, w.isHtml⟩
    protectedPorts := w.protectedPorts }

def portCount : ℕ := (getModel w.modelKey).portCount

/-- `_guard`. -/
def guard (port : ℤ) (force : Bool) : HttpScript Unit :=
  ensure (¬ (port ∈ w.protectedPorts ∧ ¬ force)) .protectedPort

/-- `_set_fastpath_membership`. -/
def setFastpathMembership (T : PageTables) (vlan port : ℤ) (mode : VlanMode) : HttpScript Unit := do
  let getPath ← done (orRaise .unsupportedCapability w.spec.vlanMembershipPath)
  let postPath ← done (orRaise .unsupportedCapability w.spec.vlanMembershipPostPath)
  let before ← readFastpathMembership T vlan getPath postPath
  let codes ← done (fastpathCodesWith before port mode)
  let applied ← sessionCall
    (.postForm postPath (fastpathMembershipForm before vlan (some codes) true))
  done (raiseOnFastpathErrFlag T applied)
  let after ← readFastpathMembership T vlan getPath postPath
  ensure (atPort after.configured port = some mode) .writeVerification

/-- `set_vlan_membership`. -/
def setVlanMembership (T : PageTables) (vlan port : ℤ) (mode : VlanMode) (force : Bool) :
    HttpScript Unit :=
  if h : w.spec.isFastpathDialect = false then (w.plus h).setVlanMembership vlan port mode force
  else do
    w.guard port force
    w.setFastpathMembership T vlan port mode

end HtmlWriter

/-! ## §3 The VLAN a page shows -/

/-- `<option[^>]*selected[^>]*value="(\d+)"`. -/
def selectedThenValueRe : Rest Text :=
  lit "<option" <| many (isNot '>') fun _ => lit "selected" <| many (isNot '>') fun _ =>
    lit "value=\"" <| many1 isDecimal fun ds => lit "\"" fun _ => some ds

/-- `<option[^>]*value="(\d+)"[^>]*selected`. -/
def valueThenSelectedRe : Rest Text :=
  lit "<option" <| many (isNot '>') fun _ => lit "value=\"" <| many1 isDecimal fun ds =>
    lit "\"" <| many (isNot '>') fun _ => lit "selected" fun _ => some ds

/-- `parse_selected_vlan`. -/
def parseSelectedVlan (html : Text) : Except LibError (Option ℕ) :=
  match (search selectedThenValueRe html).or (search valueThenSelectedRe html) with
  | none => .ok none
  | some ds => (readNat ds).map some

/-- A Plus page says it shows the VLAN. -/
def PlusShows (html : Text) (vlan : ℤ) : Prop :=
  ∃ v : ℕ, parseSelectedVlan html = .ok (some v) ∧ (v : ℤ) = vlan

/-- A FASTPATH page shows the VLAN, and `codes` are its codes but for the port's. -/
def FastpathSource (T : PageTables) (vlan port : ℤ) (codes html : Text) : Prop :=
  ∃ page slot, parseFastpathMembership T html = .ok page ∧ page.ShowsVlan vlan ∧
    atPort page.portSlots port = some slot ∧
      ∀ i, PyList.place? (page.hiddenMem.splitOn ',').length slot ≠ some i →
        (codes.splitOn ',')[i]? = (page.hiddenMem.splitOn ',')[i]?

/-- A Plus page shows the VLAN, and `codes` are its codes but for the port's. -/
def PlusSource (portCount : ℕ) (vlan port : ℤ) (codes html : Text) : Prop :=
  PlusShows html vlan ∧ ∃ raw, hiddenMemOf html = some raw ∧
    ∀ q ∈ portNumbers portCount, q ≠ port → codes[(q - 1).toNat]? = raw[(q - 1).toNat]?

/-- The codes of a FASTPATH form that is submitted to be applied to the VLAN. -/
def fastpathApplied (vlan : ℤ) : Call → Option Text
  | .postForm _ form =>
    if form.get? "submt".toList = some "16".toList ∧ form.get? "vlanId".toList = some (intText vlan)
    then form.get? "hiddenMem".toList else none
  | _ => none

/-- The codes of a Plus form that is submitted for the VLAN. -/
def plusApplied (vlan : ℤ) : Call → Option Text
  | .postForm _ form =>
    if form.get? "VLAN_ID".toList = some (intText vlan) then form.get? "hiddenMem".toList else none
  | _ => none

/-- What a call on the session came to, with the exchanges it took. -/
abbrev Written (δ : Type) := Script.Outcome δ Call (Except LibError Text) LibError Unit

/-- Every apply carries the codes of a page that had shown the VLAN, and a write without an apply
raises. -/
def AppliesShown {δ : Type} (applied : Call → Option Text) (source : Text → Text → Prop)
    (o : Written δ) : Prop :=
  Backed applied (fun codes y => ∃ html, y.2 = .ok html ∧ source codes html) o.sent ∧
    ((∀ x ∈ o.sent, applied x.1 = none) → ∃ e, o.result = .error e)

namespace HtmlWriter

variable (w : HtmlWriter)

/-- The codes of a form of the writer's dialect that is submitted to be applied to the VLAN. -/
def applied (vlan : ℤ) : Call → Option Text :=
  if w.spec.isFastpathDialect then fastpathApplied vlan else plusApplied vlan

/-- A page of the writer's dialect shows the VLAN, and `codes` are its codes but for the port's. -/
def Source (T : PageTables) (vlan port : ℤ) (codes html : Text) : Prop :=
  if w.spec.isFastpathDialect then FastpathSource T vlan port codes html
  else PlusSource w.portCount vlan port codes html

end HtmlWriter

/-! ## §4 A FASTPATH write -/

section Fastpath

variable {T : PageTables} {page : FastpathMembership} {v port : ℤ} {mode : VlanMode}

theorem fastpathCodesWith_eq_ok {codes : Text} : fastpathCodesWith page port mode = .ok codes ↔
    ∃ slot, atPort page.portSlots port = some slot ∧
      codes = [','].intercalate (PyList.set (page.hiddenMem.splitOn ',') slot (modeToMem mode)) := by
  unfold fastpathCodesWith atPort
  by_cases hport : 0 ≤ port
  · rw [if_pos hport, if_pos hport]
    constructor
    · intro h
      obtain ⟨slot, hslot, h⟩ := bind_eq_ok.mp h
      cases h
      exact ⟨slot, orRaise_eq_ok.mp hslot, rfl⟩
    · rintro ⟨slot, hslot, rfl⟩
      rw [fastpathHiddenMemWith, hslot]
      rfl
  · rw [if_neg hport, if_neg hport]
    constructor
    · intro h
      cases h
    · rintro ⟨slot, hslot, -⟩
      cases hslot

/-- The codes of a write are those of its page, but for the one in the port's slot. -/
theorem getElem?_codes_of_place_ne {codes : Text} {slot : ℤ}
    (h : codes = [','].intercalate
      (PyList.set (page.hiddenMem.splitOn ',') slot (modeToMem mode))) {i : ℕ}
    (hi : PyList.place? (page.hiddenMem.splitOn ',').length slot ≠ some i) :
    (codes.splitOn ',')[i]? = (page.hiddenMem.splitOn ',')[i]? := by
  have hlist : codes.splitOn ',' =
      PyList.set (page.hiddenMem.splitOn ',') slot (modeToMem mode) := by
    rw [h]
    unfold PyList.set
    cases hplace : PyList.place? (page.hiddenMem.splitOn ',').length slot with
    | none =>
      exact List.splitOn_intercalate ',' (fun code hcode => not_mem_of_mem_splitOn hcode)
        (List.splitOn_ne_nil ',' _)
    | some n =>
      refine List.splitOn_intercalate ',' (fun code hcode => ?_) ?_
      · rcases List.mem_or_eq_of_mem_set hcode with hcode | rfl
        · exact not_mem_of_mem_splitOn hcode
        · exact comma_not_mem_modeToMem mode
      · intro hnil
        rw [List.set_eq_nil_iff] at hnil
        exact List.splitOn_ne_nil ',' _ hnil
  rw [hlist, PyList.set]
  cases hplace : PyList.place? (page.hiddenMem.splitOn ',').length slot with
  | none => rfl
  | some n =>
    refine List.getElem?_set_ne ?_
    rintro rfl
    exact hi hplace

/-- A form that asks for a page is not one that is applied. -/
theorem fastpathApplied_select (path : Text) :
    fastpathApplied v (.postForm path (fastpathMembershipForm page v none false)) = none := by
  have hsubmt : (fastpathMembershipForm page v none false).get? "submt".toList =
      some "0".toList := PyDict.get?_set_self _ _ _
  refine if_neg fun h => ?_
  rw [hsubmt] at h
  exact absurd h.1 (by decide)

theorem fastpathApplied_apply (path codes : Text) :
    fastpathApplied v (.postForm path (fastpathMembershipForm page v (some codes) true)) =
      some codes := by
  have hform : ∀ field : String, field.toList ≠ "hiddenMem".toList →
      (fastpathMembershipForm page v (some codes) true).get? field.toList =
        (fastpathMembershipForm page v none true).get? field.toList :=
    fun field h => PyDict.get?_set_ne _ _ h
  have hsubmt : (fastpathMembershipForm page v none true).get? "submt".toList =
      some "16".toList := PyDict.get?_set_self _ _ _
  have hvlan : (fastpathMembershipForm page v none true).get? "vlanId".toList =
      some (intText v) := by
    rw [fastpathMembershipForm, PyDict.get?_set_ne _ _ (by decide), PyDict.get?_set_ne _ _ (by decide),
      PyDict.get?_set_ne _ _ (by decide), PyDict.get?_set_self]
  have hmem : (fastpathMembershipForm page v (some codes) true).get? "hiddenMem".toList =
      some codes := PyDict.get?_set_self _ _ _
  exact (if_pos ⟨(hform "submt" (by decide)).trans hsubmt,
    (hform "vlanId" (by decide)).trans hvlan⟩).trans hmem

theorem asks_readFastpathMembership (getPath postPath : Text) :
    (readFastpathMembership T v getPath postPath).Asks fun c => fastpathApplied v c = none := by
  refine asks_bind (asks_sessionCall rfl) fun html => asks_done_bind fun page _ => ?_
  split
  · exact asks_done _
  · refine asks_bind (asks_sessionCall (fastpathApplied_select postPath)) fun _ =>
      asks_done_bind fun shown _ => asks_bind (asks_done _) fun _ => asks_done _

variable {pages : ℕ → Except LibError Text} {i : ℕ} {getPath postPath : Text}

/-- What a page that was read came from. -/
inductive ReadFrom (T : PageTables) (v : ℤ) (page : FastpathMembership)
    (answers : ℕ → Except LibError Text) (i : ℕ) (sent : List (Except LibError Text)) : Prop
  | shown {html : Text} (hanswer : answers i = .ok html)
      (hparse : parseFastpathMembership T html = .ok page) (hshows : page.ShowsVlan v)
      (hsent : sent = [.ok html])
  | selected {html html' : Text} {first : FastpathMembership} (hanswer : answers i = .ok html)
      (hfirst : parseFastpathMembership T html = .ok first) (hother : ¬ first.ShowsVlan v)
      (hanswer' : answers (i + 1) = .ok html')
      (hparse : parseFastpathMembership T html' = .ok page)
      (hshows : page.vlanId = none ∨ page.ShowsVlan v) (hsent : sent = [.ok html, .ok html'])

/-- Where a call on the session is answered, the rest of the script goes on with the answer. -/
theorem run_sessionCall_bind {α : Type} {c : Call} {html : Text} {f : Text → HttpScript α}
    (h : pages i = .ok html) : (sessionCall c >>= f).run (replies pages) i =
      { (f html).run (replies pages) (i + 1) with
        sent := (c, .ok html) :: ((f html).run (replies pages) (i + 1)).sent } := by
  have hcall : ((sessionCall c).run (replies pages) i).result = .ok html := h
  have hsent : ((sessionCall c).run (replies pages) i).sent = [(c, .ok html)] := by
    rw [run_sessionCall, replies, h]
  rw [run_bind_ok hcall, hsent]
  rfl

theorem run_sessionCall_bind_error {α : Type} {c : Call} {e : LibError} {f : Text → HttpScript α}
    (h : pages i = .error e) : (sessionCall c >>= f).run (replies pages) i =
      ⟨.error e, i + 1, [(c, .error e)]⟩ := by
  have hcall : ((sessionCall c).run (replies pages) i).result = .error e := h
  rw [run_bind_error hcall, run_sessionCall, replies, h]

theorem run_selectFastpathMembership {first shown : FastpathMembership} {html : Text}
    (hanswer : pages i = .ok html) (hparse : parseFastpathMembership T html = .ok shown)
    (hshows : shown.vlanId = none ∨ shown.ShowsVlan v) :
    (selectFastpathMembership T first v postPath).run (replies pages) i =
      ⟨.ok shown, i + 1,
        [(.postForm postPath (fastpathMembershipForm first v none false), .ok html)]⟩ := by
  rw [selectFastpathMembership, run_sessionCall_bind hanswer, run_done_bind hparse,
    requireFastpathMembershipFor, ensure_of_pos hshows]
  rfl

/-- A page that was read came from one answer that shows the VLAN, or from the second of two. -/
theorem readFrom_of_run {page : FastpathMembership}
    (h : ((readFastpathMembership T v getPath postPath).run (replies pages) i).result = .ok page) :
    ReadFrom T v page pages i
      (((readFastpathMembership T v getPath postPath).run (replies pages) i).sent.map Prod.snd) := by
  unfold readFastpathMembership at h ⊢
  cases hanswer : pages i with
  | error e =>
    rw [run_sessionCall_bind_error hanswer] at h
    cases h
  | ok html =>
    rw [run_sessionCall_bind hanswer] at h
    cases hfirst : parseFastpathMembership T html with
    | error e =>
      rw [run_done_bind_error hfirst] at h
      cases h
    | ok first =>
      rw [run_done_bind hfirst] at h
      rw [run_sessionCall_bind hanswer, run_done_bind hfirst]
      by_cases hshows : first.ShowsVlan v
      · rw [if_pos hshows] at h ⊢
        cases h
        exact .shown hanswer hfirst hshows rfl
      · rw [if_neg hshows] at h ⊢
        cases hanswer' : pages (i + 1) with
        | error e =>
          rw [selectFastpathMembership, run_sessionCall_bind_error hanswer'] at h
          cases h
        | ok html' =>
          cases hparse : parseFastpathMembership T html' with
          | error e =>
            rw [selectFastpathMembership, run_sessionCall_bind hanswer',
              run_done_bind_error hparse] at h
            cases h
          | ok shown =>
            by_cases hright : shown.vlanId = none ∨ shown.ShowsVlan v
            · rw [run_selectFastpathMembership hanswer' hparse hright] at h ⊢
              cases h
              exact .selected hanswer hfirst hshows hanswer' hparse hright rfl
            · rw [selectFastpathMembership, run_sessionCall_bind hanswer', run_done_bind hparse,
                requireFastpathMembershipFor, ensure_of_neg hright] at h
              cases h

/-- The device has the writer fill in its form from a page that does not say which VLAN it shows:
the page it gives first shows another one, the next has none selected and the port in its grid. -/
def FastpathMisled (T : PageTables) (v port : ℤ) (pages : ℕ → Except LibError Text) : Prop :=
  ∃ html html' first shown, pages 0 = .ok html ∧ parseFastpathMembership T html = .ok first ∧
    ¬ first.ShowsVlan v ∧ pages 1 = .ok html' ∧ parseFastpathMembership T html' = .ok shown ∧
    shown.vlanId = none ∧ (atPort shown.portSlots port).isSome

/-- What a misled writer reads. -/
theorem run_read_of_misled {html html' : Text} {first shown : FastpathMembership}
    (hanswer : pages 0 = .ok html) (hfirst : parseFastpathMembership T html = .ok first)
    (hother : ¬ first.ShowsVlan v) (hanswer' : pages 1 = .ok html')
    (hparse : parseFastpathMembership T html' = .ok shown) (hnone : shown.vlanId = none) :
    ((readFastpathMembership T v getPath postPath).run (replies pages) 0).result = .ok shown := by
  rw [readFastpathMembership, run_sessionCall_bind hanswer, run_done_bind hfirst, if_neg hother,
    run_selectFastpathMembership hanswer' hparse (.inl hnone)]

theorem appliesShown_of_error {δ : Type} {applied : Call → Option Text}
    {source : Text → Text → Prop} {o : Written δ} {e : LibError} (hresult : o.result = .error e)
    (hsent : ∀ x ∈ o.sent, applied x.1 = none) : AppliesShown applied source o :=
  ⟨backed_of_none hsent, fun _ => ⟨e, hresult⟩⟩

/-- A write with one apply is safe where the apply is backed. -/
theorem appliesShown_iff {δ : Type} {applied : Call → Option Text} {source : Text → Text → Prop}
    {o : Written δ} {pre post : List (Call × Except LibError Text)}
    {x : Call × Except LibError Text} {codes : Text} (hsent : o.sent = pre ++ x :: post)
    (hpre : ∀ y ∈ pre, applied y.1 = none) (hx : applied x.1 = some codes)
    (hpost : ∀ y ∈ post, applied y.1 = none) : AppliesShown applied source o ↔
      ∃ y ∈ pre, ∃ html, y.2 = .ok html ∧ source codes html := by
  rw [AppliesShown, hsent, backed_append_cons_iff hpre hx hpost]
  refine and_iff_left fun hnone => ?_
  have happly := hnone x (List.mem_append_right _ List.mem_cons_self)
  rw [hx] at happly
  cases happly

theorem not_showsVlan_of_none (h : page.vlanId = none) : ¬ page.ShowsVlan v := by
  rw [FastpathMembership.ShowsVlan, h]
  exact fun hnone => by cases hnone

namespace HtmlWriter

variable {w : HtmlWriter}

/-- What comes behind the apply of a write. -/
private def fastpathRest (T : PageTables) (vlan port : ℤ) (mode : VlanMode)
    (getPath postPath : Text) (applied : Text) : HttpScript Unit := do
  done (raiseOnFastpathErrFlag T applied)
  let after ← readFastpathMembership T vlan getPath postPath
  ensure (atPort after.configured port = some mode) .writeVerification

private theorem asks_fastpathRest (applied : Text) :
    (fastpathRest T v port mode getPath postPath applied).Asks
      fun c => fastpathApplied v c = none :=
  asks_bind (asks_done _) fun _ => asks_bind (asks_readFastpathMembership getPath postPath) fun _ =>
    asks_done _

private theorem setFastpathMembership_eq (hget : w.spec.vlanMembershipPath = some getPath)
    (hpost : w.spec.vlanMembershipPostPath = some postPath) :
    w.setFastpathMembership T v port mode = (do
      let before ← readFastpathMembership T v getPath postPath
      let codes ← Script.done (fastpathCodesWith before port mode)
      let applied ← sessionCall
        (.postForm postPath (fastpathMembershipForm before v (some codes) true))
      fastpathRest T v port mode getPath postPath applied) := by
  rw [setFastpathMembership, hget, hpost]
  rfl

/-- **A FASTPATH write.**  Every apply carries the codes of a page that had shown its VLAN, unless
the second page has no VLAN selected. -/
theorem appliesShown_setFastpathMembership_iff (hget : w.spec.vlanMembershipPath = some getPath)
    (hpost : w.spec.vlanMembershipPostPath = some postPath) :
    AppliesShown (fastpathApplied v) (FastpathSource T v port)
      ((w.setFastpathMembership T v port mode).run (replies pages) 0) ↔
        ¬ FastpathMisled T v port pages := by
  rw [setFastpathMembership_eq hget hpost]
  have hreads := (asks_readFastpathMembership (T := T) (v := v) getPath postPath).sent
    (replies pages) 0
  cases hread : ((readFastpathMembership T v getPath postPath).run (replies pages) 0).result with
  | error e =>
    rw [run_bind_error hread]
    refine iff_of_true (appliesShown_of_error rfl hreads) ?_
    rintro ⟨html, html', first, shown, h0, hfirst, hother, h1, hparse, hnone, -⟩
    rw [run_read_of_misled h0 hfirst hother h1 hparse hnone] at hread
    cases hread
  | ok page =>
    rw [run_bind_ok hread]
    have hmisled : FastpathMisled T v port pages → page.vlanId = none ∧
        (atPort page.portSlots port).isSome := by
      rintro ⟨html, html', first, shown, h0, hfirst, hother, h1, hparse, hnone, hslot⟩
      rw [run_read_of_misled h0 hfirst hother h1 hparse hnone] at hread
      cases hread
      exact ⟨hnone, hslot⟩
    cases hcodes : fastpathCodesWith page port mode with
    | error e =>
      rw [run_done_bind_error rfl]
      refine iff_of_true (appliesShown_of_error rfl fun x hx => ?_) fun hmis => ?_
      · rw [List.append_nil] at hx
        exact hreads x hx
      · obtain ⟨slot, hslot⟩ := Option.isSome_iff_exists.mp (hmisled hmis).2
        rw [fastpathCodesWith_eq_ok.mpr ⟨slot, hslot, rfl⟩] at hcodes
        cases hcodes
    | ok codes =>
      rw [run_done_bind rfl]
      obtain ⟨slot, hslot, hwritten⟩ := fastpathCodesWith_eq_ok.mp hcodes
      have hsource : ∀ {html : Text}, parseFastpathMembership T html = .ok page →
          page.ShowsVlan v → FastpathSource T v port codes html := fun hparse hshows =>
        ⟨page, slot, hparse, hshows, hslot, fun i hi => getElem?_codes_of_place_ne hwritten hi⟩
      have hrest : ∀ applied : Text, (fastpathRest T v port mode getPath postPath applied).Asks
          fun c => fastpathApplied v c = none := asks_fastpathRest
      obtain ⟨post, hsent, hnone⟩ := sent_sessionCall_bind (m := replies pages)
        (d := ((readFastpathMembership T v getPath postPath).run (replies pages) 0).device)
        (c := .postForm postPath (fastpathMembershipForm page v (some codes) true)) hrest
      rw [hsent, appliesShown_iff rfl hreads (fastpathApplied_apply postPath codes) hnone]
      have hanswers := readFrom_of_run hread
      have hback : ∀ {html : Text}, .ok html ∈ (((readFastpathMembership T v getPath postPath).run
          (replies pages) 0).sent.map Prod.snd) → FastpathSource T v port codes html →
          ∃ y ∈ ((readFastpathMembership T v getPath postPath).run (replies pages) 0).sent,
            ∃ html, y.2 = .ok html ∧ FastpathSource T v port codes html := by
        intro html hmem hsource
        obtain ⟨y, hy, hok⟩ := List.mem_map.mp hmem
        exact ⟨y, hy, html, hok, hsource⟩
      cases hanswers with
      | shown hanswer hparse hshows hlist =>
        refine iff_of_true (hback (by rw [hlist]; simp) (hsource hparse hshows)) fun hmis => ?_
        exact absurd hshows (not_showsVlan_of_none (hmisled hmis).1)
      | @selected html html' first hanswer hfirst hother hanswer' hparse hshows hlist =>
        rcases hshows with hunselected | hshows
        · refine iff_of_false ?_ (not_not.mpr ⟨html, html', first, page, hanswer, hfirst, hother,
            hanswer', hparse, hunselected, Option.isSome_iff_exists.mpr ⟨slot, hslot⟩⟩)
          rintro ⟨y, hy, html₁, hok, page₁, _, hparse₁, hshows₁, -⟩
          have hmem : y.2 ∈ [Except.ok html, Except.ok html'] := hlist ▸ List.mem_map_of_mem hy
          rw [hok, List.mem_pair] at hmem
          rcases hmem with hsame | hsame
          · cases hsame
            cases hfirst.symm.trans hparse₁
            exact hother hshows₁
          · cases hsame
            cases hparse.symm.trans hparse₁
            exact not_showsVlan_of_none hunselected hshows₁
        · refine iff_of_true (hback (by rw [hlist]; simp) (hsource hparse hshows)) fun hmis => ?_
          exact absurd hshows (not_showsVlan_of_none (hmisled hmis).1)

end HtmlWriter

end Fastpath

/-! ## §5 A Plus write -/

section Plus

variable {html : Text} {n : ℕ} {read : PyDict ℤ VlanMode} {v port : ℤ} {mode : VlanMode}

theorem wire_of_wireToMode {c : Char} (h : wireToMode c = some mode) : c = wire mode := by
  unfold wireToMode at h
  split_ifs at h with h1 h2 h3
  all_goals
    cases h
    assumption

/-- What is read of a page is its characters. -/
theorem parseMembership_eq_ok (h : parseMembership html n = .ok read) :
    ∃ raw, hiddenMemOf html = some raw ∧
      ∀ q ∈ portNumbers n, ∃ mode, read.get? q = some mode ∧ raw[(q - 1).toNat]? = some (wire mode) := by
  obtain ⟨raw, hraw, h⟩ := bind_eq_ok.mp h
  refine ⟨raw, orRaise_eq_ok.mp hraw, ?_⟩
  split_ifs at h with hlength
  obtain ⟨entries, hentries, h⟩ := bind_eq_ok.mp h
  cases h
  have hmap : entries.map (fun e => (e.1, wire e.2)) = ((portNumbers n).zip raw).map id := by
    refine map_of_mapM_eq_ok (fun code entry h => ?_) hentries
    obtain ⟨mode, hmode, h⟩ := bind_eq_ok (f := fun mode => Except.ok (code.1, mode)) |>.mp h
    cases h
    exact Prod.ext rfl (wire_of_wireToMode (orRaise_eq_ok.mp hmode)).symm
  rw [List.map_id] at hmap
  have hkeys : entries.map Prod.fst = portNumbers n := by
    have hfst := congrArg (List.map Prod.fst) hmap
    rw [List.map_map, List.map_fst_zip (by rw [length_portNumbers]; omega)] at hfst
    exact hfst
  intro q hq
  obtain ⟨hlow, hhigh⟩ := mem_portNumbers.mp hq
  have hlt : (q - 1).toNat < raw.length := by omega
  have hmem : (q, raw[(q - 1).toNat]) ∈ (portNumbers n).zip raw := by
    refine List.mem_iff_getElem?.mpr ⟨(q - 1).toNat, ?_⟩
    rw [List.getElem?_zip_eq_some]
    refine ⟨?_, List.getElem?_eq_getElem hlt⟩
    rw [portNumbers, List.getElem?_map, List.getElem?_range (by omega), Option.map_some]
    congr 1
    omega
  rw [← hmap] at hmem
  obtain ⟨⟨q', mode⟩, he, heq⟩ := List.mem_map.mp hmem
  obtain ⟨rfl, hchar⟩ := Prod.mk.inj heq
  refine ⟨mode, ?_, by rw [List.getElem?_eq_getElem hlt, hchar]⟩
  rw [← PyDict.mem_items_iff, PyDict.items_ofList (by rw [hkeys]; exact nodup_portNumbers n)]
  exact he

/-- The characters of a write are those of its page, but for the port's. -/
theorem plusSource_of_parse (h : parseMembership html n = .ok read) (hshows : PlusShows html v) :
    PlusSource n v port (membershipHiddenMem (read.set port mode) n) html := by
  obtain ⟨raw, hraw, hchars⟩ := parseMembership_eq_ok h
  refine ⟨hshows, raw, hraw, fun q hq hne => ?_⟩
  obtain ⟨mode', hread, hchar⟩ := hchars q hq
  obtain ⟨hlow, hhigh⟩ := mem_portNumbers.mp hq
  have hq' : (((q - 1).toNat : ℕ) : ℤ) + 1 = q := by omega
  rw [membershipHiddenMem, List.getElem?_map, portNumbers, List.getElem?_map,
    List.getElem?_range (by omega), Option.map_some, Option.map_some, hq',
    PyDict.get?_set_ne _ _ hne, hread, Option.getD_some, hchar]

theorem plusApplied_ask (path : Text) : plusApplied v (.postForm path (vlanIdForm v)) = none := by
  have hnone : (vlanIdForm v).get? "hiddenMem".toList = none := rfl
  show (if _ then _ else _) = none
  split_ifs
  · exact hnone
  · rfl

theorem plusApplied_apply (path codes token : Text) :
    plusApplied v (.postForm path (plusMembershipForm v codes token)) = some codes := by
  have hvlan : (plusMembershipForm v codes token).get? "VLAN_ID".toList = some (intText v) := rfl
  exact if_pos hvlan

/-- The device has the writer fill in its form from a page that does not show the VLAN: the page
can be read, carries a token and does not say that it is the VLAN's. -/
def PlusMisled (portCount : ℕ) (v : ℤ) (pages : ℕ → Except LibError Text) : Prop :=
  ∃ html, pages 0 = .ok html ∧ (parseMembership html portCount).isOk ∧ (csrf html).isOk ∧
    ¬ PlusShows html v

namespace PlusWriter

variable {w : PlusWriter} {path : Text} {pages : ℕ → Except LibError Text} {force : Bool}

private theorem asks_plusRest (port : ℤ) (mode : VlanMode) (path : Text) (_ : Text) :
    (do
      let verify ← sessionCall (.postForm path (vlanIdForm v))
      let after ← Script.done (parseMembership verify w.portCount)
      ensure (after.get? port = some mode) .writeVerification : HttpScript Unit).Asks
        fun c => plusApplied v c = none :=
  asks_bind (asks_sessionCall (plusApplied_ask path)) fun _ => asks_bind (asks_done _) fun _ =>
    asks_done _

/-- **A Plus write.**  The apply carries the codes of a page that had shown its VLAN, unless the
page that came says another one, or none. -/
theorem appliesShown_setVlanMembership_iff (hpath : w.spec.vlanMembershipPath = some path)
    (hguard : ¬ (port ∈ w.protectedPorts ∧ ¬ force)) :
    AppliesShown (plusApplied v) (PlusSource w.portCount v port)
      ((w.setVlanMembership v port mode force).run (replies pages) 0) ↔
        ¬ PlusMisled w.portCount v pages := by
  have hrun : w.setVlanMembership v port mode force = (do
      let html ← sessionCall (.postForm path (vlanIdForm v))
      let read ← Script.done (parseMembership html w.portCount)
      let token ← Script.done (csrf html)
      let _ ← sessionCall (.postForm path
        (plusMembershipForm v (membershipHiddenMem (read.set port mode) w.portCount) token))
      let verify ← sessionCall (.postForm path (vlanIdForm v))
      let after ← Script.done (parseMembership verify w.portCount)
      ensure (after.get? port = some mode) .writeVerification) := by
    rw [setVlanMembership, guard, ensure_of_pos hguard, hpath]
    rfl
  rw [hrun]
  cases hanswer : pages 0 with
  | error e =>
    rw [run_sessionCall_bind_error hanswer]
    refine iff_of_true (appliesShown_of_error rfl fun x hx => ?_) ?_
    · rw [List.mem_singleton] at hx
      rw [hx]
      exact plusApplied_ask path
    · rintro ⟨html, hok, -⟩
      cases hanswer.symm.trans hok
  | ok html =>
    rw [run_sessionCall_bind hanswer]
    have hfirst : ∀ x ∈ [(Call.postForm path (vlanIdForm v), pages 0)],
        plusApplied v x.1 = none := by
      intro x hx
      rw [List.mem_singleton] at hx
      rw [hx]
      exact plusApplied_ask path
    rw [hanswer] at hfirst
    cases hparse : parseMembership html w.portCount with
    | error e =>
      rw [run_done_bind_error rfl]
      refine iff_of_true (appliesShown_of_error rfl hfirst) ?_
      rintro ⟨html', hok, hread, -⟩
      cases hanswer.symm.trans hok
      rw [hparse] at hread
      cases hread
    | ok read =>
      rw [run_done_bind rfl]
      cases htoken : csrf html with
      | error e =>
        rw [run_done_bind_error rfl]
        refine iff_of_true (appliesShown_of_error rfl hfirst) ?_
        rintro ⟨html', hok, -, hscraped, -⟩
        cases hanswer.symm.trans hok
        rw [htoken] at hscraped
        cases hscraped
      | ok token =>
        rw [run_done_bind rfl]
        obtain ⟨post, hsent, hnone⟩ := sent_sessionCall_bind (m := replies pages) (d := 0 + 1)
          (c := .postForm path (plusMembershipForm v
            (membershipHiddenMem (read.set port mode) w.portCount) token))
          (asks_plusRest (w := w) (v := v) port mode path)
        rw [hsent, @appliesShown_iff _ _ _ _ [(Call.postForm path (vlanIdForm v), .ok html)] _ _ _
          rfl hfirst (plusApplied_apply path _ token) hnone]
        by_cases hshows : PlusShows html v
        · refine iff_of_true ⟨_, List.mem_singleton_self _, html, rfl,
            plusSource_of_parse hparse hshows⟩ ?_
          rintro ⟨html', hok, -, -, hother⟩
          cases hanswer.symm.trans hok
          exact hother hshows
        · refine iff_of_false ?_ (not_not.mpr ⟨html, hanswer, by rw [hparse]; rfl,
            by rw [htoken]; rfl, hshows⟩)
          rintro ⟨y, hy, html', hok, hsource⟩
          rw [List.mem_singleton] at hy
          rw [hy] at hok
          cases hok
          exact hshows hsource.1

end PlusWriter

end Plus

/-! ## §6 Both -/

namespace HtmlWriter

variable {w : HtmlWriter} {T : PageTables} {pages : ℕ → Except LibError Text} {v port : ℤ}
  {mode : VlanMode} {force : Bool}

/-- The device has the writer fill in its form from a page that does not show the VLAN. -/
def Misled (w : HtmlWriter) (T : PageTables) (v port : ℤ) (pages : ℕ → Except LibError Text) :
    Prop :=
  if w.spec.isFastpathDialect then FastpathMisled T v port pages
  else PlusMisled w.portCount v pages

theorem exists_vlanMembershipPath (w : HtmlWriter) :
    ∃ path, w.spec.vlanMembershipPath = some path := by
  obtain ⟨key, spec, hspec, hhtml, _⟩ := w
  cases key <;> cases hspec <;> first | exact ⟨_, rfl⟩ | cases hhtml

theorem exists_vlanMembershipPostPath (h : w.spec.isFastpathDialect = true) :
    ∃ path, w.spec.vlanMembershipPostPath = some path := by
  obtain ⟨key, spec, hspec, hhtml, _⟩ := w
  cases key <;> cases hspec <;> first | exact ⟨_, rfl⟩ | cases h

/-- A refused write asks for nothing. -/
theorem run_setVlanMembership_of_refused (hguard : port ∈ w.protectedPorts ∧ ¬ force) :
    (w.setVlanMembership T v port mode force).run (replies pages) 0 =
      ⟨.error .protectedPort, 0, []⟩ := by
  unfold setVlanMembership
  by_cases hdialect : w.spec.isFastpathDialect = false
  · have hplus : port ∈ (w.plus hdialect).protectedPorts ∧ ¬ force := hguard
    rw [dif_pos hdialect, PlusWriter.setVlanMembership, PlusWriter.guard,
      ensure_of_neg (not_not.mpr hplus)]
    rfl
  · rw [dif_neg hdialect, guard, ensure_of_neg (not_not.mpr hguard)]
    rfl

theorem appliesShown_iff_of_allowed (hguard : ¬ (port ∈ w.protectedPorts ∧ ¬ force)) :
    AppliesShown (w.applied v) (w.Source T v port)
      ((w.setVlanMembership T v port mode force).run (replies pages) 0) ↔
        ¬ w.Misled T v port pages := by
  obtain ⟨getPath, hget⟩ := w.exists_vlanMembershipPath
  have hsource : w.Source T v port = if w.spec.isFastpathDialect then FastpathSource T v port
      else PlusSource w.portCount v port := by
    funext codes html
    rw [Source]
    split <;> rfl
  rw [hsource, applied, Misled, setVlanMembership]
  by_cases hdialect : w.spec.isFastpathDialect = false
  · rw [dif_pos hdialect]
    simp only [hdialect, Bool.false_eq_true, if_false]
    exact PlusWriter.appliesShown_setVlanMembership_iff (w := w.plus hdialect) hget hguard
  · rw [dif_neg hdialect]
    have htrue : w.spec.isFastpathDialect = true := Bool.eq_true_of_not_eq_false hdialect
    obtain ⟨postPath, hpost⟩ := exists_vlanMembershipPostPath htrue
    simp only [htrue, if_true]
    rw [guard, ensure_of_pos hguard]
    exact appliesShown_setFastpathMembership_iff hget hpost

/-- **The VLAN a membership write is made for.**  Against every device, every apply carries the
codes of a page that had shown its VLAN and a write that applies nothing raises, exactly where the
writer refuses the port or the device does not mislead it. -/
theorem appliesShown_setVlanMembership (w : HtmlWriter) (T : PageTables)
    (pages : ℕ → Except LibError Text) (v port : ℤ) (mode : VlanMode) (force : Bool) :
    AppliesShown (w.applied v) (w.Source T v port)
      ((w.setVlanMembership T v port mode force).run (replies pages) 0) ↔
        (port ∈ w.protectedPorts ∧ ¬ force) ∨ ¬ w.Misled T v port pages := by
  by_cases hguard : port ∈ w.protectedPorts ∧ ¬ force
  · rw [run_setVlanMembership_of_refused hguard]
    exact iff_of_true (appliesShown_of_error rfl fun x hx => by cases hx) (.inl hguard)
  · rw [appliesShown_iff_of_allowed hguard]
    exact (or_iff_right hguard).symm

theorem isSome_gs305ep : (httpSpec .gs305ep).isSome = true := rfl

theorem isSpec_gs305ep : httpSpec .gs305ep = some ((httpSpec .gs305ep).get isSome_gs305ep) := rfl

theorem isHtml_gs305ep :
    ((httpSpec .gs305ep).get isSome_gs305ep).isXmlApiDialect = false := rfl

def gs305ep : HtmlWriter where
  modelKey := .gs305ep
  spec := (httpSpec .gs305ep).get isSome_gs305ep
  isSpec := isSpec_gs305ep
  isHtml := isHtml_gs305ep

def gsm7252ps : HtmlWriter where
  modelKey := .gsm7252ps
  spec := (httpSpec .gsm7252ps).get rfl
  isSpec := rfl
  isHtml := rfl

end HtmlWriter

/-- A Plus page that shows VLAN 1, whatever was asked for. -/
def plusPageOfOne : Text :=
  "<option selected ".toList ++ "value=\"1\">".toList ++ "<input id=\"hiddenMem\" ".toList ++
    "value=\"11111\">".toList ++ "<input name=\"hash\" ".toList ++ "value=\"18\">".toList

/-- A FASTPATH page with one port and no VLAN selected. -/
def unselectedPage : Text :=
  "<form method=\"post\" ".toList ++ "ACTION=\"vlan_port_cfg_rw.html\">".toList ++
    "<input name=\"hiddenMem\" ".toList ++ "value=\"1\">".toList ++
    "<select name=\"vlanId\">".toList ++ "<option value=\"4\">".toList ++
    "</select>".toList ++ "<td aid='port-1/0/1' ".toList ++ "src='/switch_tagged_x.png' ".toList ++
    "name='imx' togImg(this,".toList ++ "1,0,\"hiddenMem\")>".toList

theorem misled_plusPageOfOne :
    HtmlWriter.gs305ep.Misled asciiTables 7 2 fun _ => .ok plusPageOfOne := by
  have hread : (parseMembership plusPageOfOne 5).isOk = true := by decide +kernel
  have htoken : (csrf plusPageOfOne).isOk = true := by decide +kernel
  have hshown : (parseSelectedVlan plusPageOfOne).toOption = some (some 1) := by decide +kernel
  refine ⟨plusPageOfOne, rfl, hread, htoken, ?_⟩
  rintro ⟨v, hv, hseven⟩
  rw [hv] at hshown
  cases hshown
  exact absurd hseven (by decide)

theorem misled_unselectedPage :
    HtmlWriter.gsm7252ps.Misled asciiTables 7 1 fun _ => .ok unselectedPage := by
  have hparse : (parseFastpathMembership asciiTables unselectedPage).toOption.any
      (fun page => decide (page.vlanId = none ∧ (atPort page.portSlots 1).isSome)) = true := by
    decide +kernel
  obtain ⟨page, hpage, hread⟩ := exists_of_any hparse
  obtain ⟨hnone, hslot⟩ := of_decide_eq_true hread
  exact ⟨unselectedPage, unselectedPage, page, page, rfl, hpage, not_showsVlan_of_none hnone, rfl,
    hpage, hnone, hslot⟩

/-- A GS305EP that answers with the page of VLAN 1, and a GSM7252PS that answers with a page that
has no VLAN selected, get its codes back under VLAN 7. -/
theorem not_appliesShown_otherVlan :
    ¬ AppliesShown (HtmlWriter.gs305ep.applied 7) (HtmlWriter.gs305ep.Source asciiTables 7 2)
      ((HtmlWriter.gs305ep.setVlanMembership asciiTables 7 2 .tagged false).run
        (replies fun _ => .ok plusPageOfOne) 0) ∧
    ¬ AppliesShown (HtmlWriter.gsm7252ps.applied 7) (HtmlWriter.gsm7252ps.Source asciiTables 7 1)
      ((HtmlWriter.gsm7252ps.setVlanMembership asciiTables 7 1 .tagged false).run
        (replies fun _ => .ok unselectedPage) 0) := by
  have hfree : ∀ p : ℤ, ¬ (p ∈ (∅ : Finset ℤ) ∧ ¬ (false : Bool) = true) := by
    rintro p ⟨hp, -⟩
    exact absurd hp (Finset.notMem_empty p)
  constructor
  · rw [HtmlWriter.appliesShown_iff_of_allowed (w := HtmlWriter.gs305ep) (hfree 2), not_not]
    exact misled_plusPageOfOne
  · rw [HtmlWriter.appliesShown_iff_of_allowed (w := HtmlWriter.gsm7252ps) (hfree 1), not_not]
    exact misled_unselectedPage

end NetgearSwitch.Http
