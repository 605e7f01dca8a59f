import NetgearSwitch.Http.PlusMembership
import NetgearSwitch.Virtual.WebForms

/-!
# The web face of the Plus models

The VLAN membership page as `virtual/web.py`, `virtual/web_gs105pe.py` and
`virtual/web_gs110emx.py` write it, what `virtual/web.py` applies of a form posted to it, and
`HttpWriter.set_vlan_membership` against the face.  `virtual/faces/http.py` asks the model-specific
pages first, and only `virtual/web.py` applies a form.

§1 rendering · §2 applying · §3 the face · §4 the pages as the client reads them · §5 one write
-/

namespace NetgearSwitch.Virtual

open Http PyText PyRe Script

/-! ## §1 Rendering -/

/-- Where a port stands in a VLAN, as the pages tell it. -/
def VlanSim.portMode (vsim : VlanSim) (p : ℤ) : VlanMode :=
  if p ∉ vsim.member then .excluded else if p ∈ vsim.untagged then .untagged else .tagged

/-- `_HASH` of the generic pages. -/
def webHash : Text := "virtualhash".toList

/-- `VIRTUAL_CSRF_HASH` of the GS105PE pages. -/
def virtualCsrfHash : Text := "18007".toList

/-- The character `_render_membership` writes for a port. -/
def membershipChar (vsim : Option VlanSim) (p : ℤ) : Char :=
  match vsim with
  | none => '3'
  | some vsim => if p ∉ vsim.member then '3' else if p ∈ vsim.untagged then '1' else '2'

/-- The character `render_vlan_membership` of the other two pages writes for a port. -/
def vlanMembershipChar (vsim : Option VlanSim) (p : ℤ) : Char :=
  match vsim with
  | none => '3'
  | some vsim => if p ∈ vsim.untagged then '1' else if p ∈ vsim.member then '2' else '3'

/-- The GS110EMX page template around its two placeholders.  The page has no token. -/
structure VlanmemPage where
  head : Text
  middle : Text
  tail : Text
  noHash : ∀ piece ∈ [head, middle, tail], clear same "hash".toList piece = true

/-- The option of a VLAN on the generic page. -/
def membershipOption (shown v : ℤ) : Text :=
  "<option ".toList ++ ((if v = shown then "selected ".toList else []) ++ ("value=\"".toList ++
    (intText v ++ ("\">VLAN ".toList ++ (intText v ++ "</option>".toList)))))

/-- The option of a VLAN on the GS105PE page. -/
def gs105peOption (shown v : ℤ) : Text :=
  "<option value=\"".toList ++ (intText v ++ ("\"".toList ++
    ((if v = shown then " selected".toList else []) ++ (">".toList ++ (intText v ++
      "</option>\n".toList)))))

/-- The option of a VLAN on the GS110EMX page. -/
def gs110emxOption (v : ℤ) : Text :=
  "<option value = \"".toList ++ (intText v ++ ("\">".toList ++ (intText v ++
    " </option>\n".toList)))

def membershipHead : Text := "<html><body><form>".toList

def membershipTail : Text := "</form></body></html>".toList

def gs105peHead : Text := "<html><body><form method=post action=8021qMembe.cgi>".toList

def gs105peSelect : Text := "\n<select name=\"VLAN_ID\" id=\"vlanIdOption\">\n".toList

def gs105peSelectEnd : Text := "</select>\n".toList

def gs105peTail : Text := "\n</form></body></html>\n".toList

namespace VirtualSwitchState

/-- `range(1, port_count + 1)` of the model. -/
def webPorts (s : VirtualSwitchState) : List ℤ := portNumbers s.model.portCount

/-- `_render_membership`, less the token where the dialect has none. -/
def renderMembership (s : VirtualSwitchState) (spec : HttpModelSpec) (vid : ℤ) : Text :=
  membershipHead ++ ((if dialectHasCsrfHash spec.htmlDialect then hashInput webHash else []) ++
    (((PySet.sorted s.vlanIds).map (membershipOption vid)).flatten ++
      (hiddenMemInput (s.webPorts.map (membershipChar (s.vlans.get? vid))) ++ membershipTail)))

/-- `render_vlan_membership` of the GS105PE. -/
def renderGs105peMembership (s : VirtualSwitchState) (vid : ℤ) : Text :=
  gs105peHead ++ (hashInput virtualCsrfHash ++ (gs105peSelect ++
    (((PySet.sorted s.vlanIds).map (gs105peOption vid)).flatten ++ (gs105peSelectEnd ++
      (hiddenMemInput (s.webPorts.map (vlanMembershipChar (s.vlans.get? vid))) ++ gs105peTail)))))

/-- `render_vlan_membership` of the GS110EMX. -/
def renderGs110emxMembership (s : VirtualSwitchState) (page : VlanmemPage) (vid : ℤ) : Text :=
  page.head ++ (((PySet.sorted s.vlanIds).map gs110emxOption).flatten ++ (page.middle ++
    (s.webPorts.map (vlanMembershipChar (s.vlans.get? vid)) ++ page.tail)))

end VirtualSwitchState

/-! ## §2 Applying -/

/-- The ports whose character is of a kind. -/
def codedPorts (kind : Char → Bool) (hidden : Text) : Finset ℤ :=
  (((portNumbers hidden.length).zip hidden).filterMap fun e =>
    if kind e.2 then some e.1 else none).toFinset

/-- The members and the untagged members as the characters have them. -/
def VlanSim.setMembers (vsim : VlanSim) (hidden : Text) : VlanSim :=
  { vsim with
    member := codedPorts (fun c => c = '1' || c = '2') hidden
    untagged := codedPorts (· = '1') hidden }

/-- `apply_form` on the membership page; `none` where it raises. -/
def VirtualSwitchState.applyMembershipForm (s : VirtualSwitchState) (form : Form) :
    Option VirtualSwitchState :=
  match form.get? "hiddenMem".toList with
  | none => some s
  | some hidden => do
    let text ← form.get? "VLAN_ID".toList
    let vid ← pyInt text
    some { s with vlans := s.vlans.modify vid fun vsim => vsim.setMembers hidden }

/-! ## §3 The face -/

/-- The form as `parse_qs` hands it over: no blank value. -/
def parseQs (data : Form) : Form := data.filterMap fun _ value => if value = [] then none else some value

/-- `int(form.get("VLAN_ID", default))`; `none` where that raises. -/
def formVlan (form : Form) (default : ℤ) : Option ℤ :=
  match form.get? "VLAN_ID".toList with
  | none => some default
  | some text => pyInt text

namespace VirtualSwitchState

/-- The VLAN a GS105PE page shows where `vid` is asked for. -/
def gs105peVlan (s : VirtualSwitchState) (vid : ℤ) : ℤ :=
  if vid = 0 then s.vlans.keys.min?.getD 1 else vid

/-- What a POST to the membership page does and is answered with.  A handler that raises drops the
connection. -/
def postMembershipPage (s : VirtualSwitchState) (page : VlanmemPage) (spec : HttpModelSpec)
    (form : Form) : VirtualSwitchState × Except LibError Text :=
  if spec.sessionTokenField.isSome then
    (s, (orRaise .http (formVlan form 1)).map fun vid => s.renderGs110emxMembership page vid)
  else if spec.htmlDialect = .gs105pe then
    (s, (orRaise .http (formVlan form 0)).map fun vid =>
      s.renderGs105peMembership (s.gs105peVlan vid))
  else
    match s.applyMembershipForm form with
    | none => (s, .error .http)
    | some s' => (s', (orRaise .http (formVlan form 1)).map fun vid => s'.renderMembership spec vid)

end VirtualSwitchState

/-- The web face of a Plus model; `elsewhere` is what it does off the membership page. -/
def plusFace (page : VlanmemPage) (spec : HttpModelSpec)
    (elsewhere : Machine VirtualSwitchState Call (Except LibError Text)) :
    Machine VirtualSwitchState Call (Except LibError Text) := fun s c =>
  match c with
  | .postForm path data =>
    if spec.vlanMembershipPath = some path then s.postMembershipPage page spec (parseQs data)
    else elsewhere s c
  | c => elsewhere s c

/-! ## §4 The pages as the client reads them -/

theorem membershipChar_eq (vsim : VlanSim) (p : ℤ) :
    membershipChar (some vsim) p = wire (vsim.portMode p) := by
  unfold membershipChar VlanSim.portMode
  by_cases hmember : p ∈ vsim.member
  · by_cases huntagged : p ∈ vsim.untagged
    · simp [hmember, huntagged, wire]
    · simp [hmember, huntagged, wire]
  · simp [hmember, wire]

/-- The three pages write the same characters where the untagged members are members. -/
theorem vlanMembershipChar_eq {vsim : VlanSim} (h : vsim.untagged ⊆ vsim.member) (p : ℤ) :
    vlanMembershipChar (some vsim) p = wire (vsim.portMode p) := by
  unfold vlanMembershipChar VlanSim.portMode
  by_cases huntagged : p ∈ vsim.untagged
  · simp [huntagged, h huntagged, wire]
  · by_cases hmember : p ∈ vsim.member
    · simp [hmember, huntagged, wire]
    · simp [hmember, huntagged, wire]

theorem isToken_webHash : IsToken webHash := ⟨by decide, by decide⟩

theorem isToken_virtualCsrfHash : IsToken virtualCsrfHash := ⟨by decide, by decide⟩

/-- A word that starts with no digit and no sign starts nowhere in a number. -/
theorem clear_intText {c : Char} (v : Text) (n : ℤ) (hminus : c ≠ '-') (hdigit : isDigit c = false) :
    clear same (c :: v) (intText n) = true := by
  refine clear_of_head fun d hd => ?_
  rcases mem_intText hd with rfl | h
  · simpa [same] using hminus
  · have hne : c ≠ d := by
      rintro rfl
      rw [hdigit] at h
      cases h
    simpa [same] using hne

theorem clear_options {v : Text} {option : ℤ → Text} (ids : List ℤ)
    (h : ∀ n, clear same v (option n) = true) : clear same v (ids.map option).flatten = true :=
  clear_flatten fun t ht => by
    obtain ⟨n, _, rfl⟩ := List.mem_map.mp ht
    exact h n

theorem clear_membershipOption (shown n : ℤ) :
    clear same hiddenMemId (membershipOption shown n) = true := by
  have hnumber : clear same hiddenMemId (intText n) = true :=
    clear_intText _ n (by decide) (by decide)
  refine clear_append (by decide) (clear_append ?_ (clear_append (by decide)
    (clear_append hnumber (clear_append (by decide) (clear_append hnumber (by decide))))))
  by_cases h : n = shown
  · rw [if_pos h]
    decide
  · rw [if_neg h]
    rfl

theorem clear_gs105peOption (shown n : ℤ) :
    clear same hiddenMemId (gs105peOption shown n) = true := by
  have hnumber : clear same hiddenMemId (intText n) = true :=
    clear_intText _ n (by decide) (by decide)
  refine clear_append (by decide) (clear_append hnumber (clear_append (by decide)
    (clear_append ?_ (clear_append (by decide) (clear_append hnumber (by decide))))))
  by_cases h : n = shown
  · rw [if_pos h]
    decide
  · rw [if_neg h]
    rfl

theorem clear_gs110emxOption (n : ℤ) : clear same "hash".toList (gs110emxOption n) = true := by
  have hnumber : clear same "hash".toList (intText n) = true :=
    clear_intText _ n (by decide) (by decide)
  exact clear_append (by decide) (clear_append hnumber (clear_append (by decide)
    (clear_append hnumber (by decide))))

namespace VirtualSwitchState

variable {s : VirtualSwitchState} {v : ℤ} {vsim : VlanSim} {spec : HttpModelSpec}

theorem parseMembership_renderMembership (hspec : dialectHasCsrfHash spec.htmlDialect = true)
    (hv : s.vlans.get? v = some vsim) :
    parseMembership (s.renderMembership spec v) s.model.portCount =
        .ok (.ofList (s.webPorts.map fun p => (p, vsim.portMode p))) ∧
      csrf (s.renderMembership spec v) = .ok webHash := by
  have hcodes : s.webPorts.map (membershipChar (s.vlans.get? v)) =
      s.webPorts.map fun p => wire (vsim.portMode p) := by
    rw [hv]
    exact List.map_congr_left fun p _ => membershipChar_eq vsim p
  have hfront : clear same hiddenMemId (membershipHead ++ (hashInput webHash ++
      ((PySet.sorted s.vlanIds).map (membershipOption v)).flatten)) = true :=
    clear_append (by decide) (clear_append (by decide)
      (clear_options _ (clear_membershipOption v)))
  constructor
  · refine parseMembership_of_codes ?_
    have hread := hiddenMemOf_page membershipTail
      (isWire_map (f := vsim.portMode) s.webPorts) hfront
    simp only [List.append_assoc] at hread
    rw [renderMembership, if_pos hspec, hcodes]
    exact hread
  · rw [csrf, renderMembership, if_pos hspec, parseCsrfHash_page _ isToken_webHash (by decide)]
    rfl

theorem parseMembership_renderGs105peMembership (hv : s.vlans.get? v = some vsim)
    (hsub : vsim.untagged ⊆ vsim.member) :
    parseMembership (s.renderGs105peMembership v) s.model.portCount =
        .ok (.ofList (s.webPorts.map fun p => (p, vsim.portMode p))) ∧
      csrf (s.renderGs105peMembership v) = .ok virtualCsrfHash := by
  have hcodes : s.webPorts.map (vlanMembershipChar (s.vlans.get? v)) =
      s.webPorts.map fun p => wire (vsim.portMode p) := by
    rw [hv]
    exact List.map_congr_left fun p _ => vlanMembershipChar_eq hsub p
  have hfront : clear same hiddenMemId (gs105peHead ++ (hashInput virtualCsrfHash ++
      (gs105peSelect ++ (((PySet.sorted s.vlanIds).map (gs105peOption v)).flatten ++
        gs105peSelectEnd)))) = true :=
    clear_append (by decide) (clear_append (by decide) (clear_append (by decide)
      (clear_append (clear_options _ (clear_gs105peOption v)) (by decide))))
  constructor
  · refine parseMembership_of_codes ?_
    have hread := hiddenMemOf_page gs105peTail (isWire_map (f := vsim.portMode) s.webPorts) hfront
    simp only [List.append_assoc] at hread
    rw [renderGs105peMembership, hcodes]
    exact hread
  · rw [csrf, renderGs105peMembership, parseCsrfHash_page _ isToken_virtualCsrfHash (by decide)]
    rfl

theorem vlanMembershipChar_ne_h (vsim : Option VlanSim) (p : ℤ) :
    vlanMembershipChar vsim p ≠ 'h' := by
  unfold vlanMembershipChar
  cases vsim with
  | none =>
    show '3' ≠ 'h'
    decide
  | some vsim =>
    dsimp only
    split_ifs <;> decide

theorem csrf_renderGs110emxMembership (page : VlanmemPage) :
    csrf (s.renderGs110emxMembership page v) = .error .httpUnexpectedPage := by
  have hpiece := page.noHash
  simp only [List.mem_cons, List.not_mem_nil, or_false, forall_eq_or_imp, forall_eq] at hpiece
  obtain ⟨hhead, hmiddle, htail⟩ := hpiece
  have hcodes : clear same "hash".toList
      (s.webPorts.map (vlanMembershipChar (s.vlans.get? v))) = true := by
    refine clear_of_head fun d hd => ?_
    obtain ⟨p, _, rfl⟩ := List.mem_map.mp hd
    simpa [same] using fun h => vlanMembershipChar_ne_h _ _ h.symm
  have hclear : clear same "hash".toList (s.renderGs110emxMembership page v) = true :=
    clear_append hhead (clear_append (clear_options _ clear_gs110emxOption)
      (clear_append hmiddle (clear_append hcodes htail)))
  rw [csrf, parseCsrfHash_eq_none hclear]
  rfl

end VirtualSwitchState

/-! ## §5 One write -/

theorem mem_codedPorts {kind : Char → Bool} {n : ℕ} {g : ℤ → Char} {p : ℤ} :
    p ∈ codedPorts kind ((portNumbers n).map g) ↔ (1 ≤ p ∧ p ≤ n) ∧ kind (g p) = true := by
  have hzip : (portNumbers ((portNumbers n).map g).length).zip ((portNumbers n).map g) =
      (portNumbers n).map fun q => (q, g q) := by
    rw [List.length_map, length_portNumbers]
    induction portNumbers n with
    | nil => rfl
    | cons q ports ih => rw [List.map_cons, List.zip_cons_cons, ih, List.map_cons]
  rw [codedPorts, hzip, List.mem_toFinset, List.mem_filterMap]
  constructor
  · rintro ⟨e, he, hkind⟩
    obtain ⟨q, hq, rfl⟩ := List.mem_map.mp he
    by_cases h : kind (g q) = true
    · rw [if_pos h] at hkind
      cases hkind
      exact ⟨mem_portNumbers.mp hq, h⟩
    · rw [if_neg h] at hkind
      cases hkind
  · rintro ⟨hp, h⟩
    exact ⟨(p, g p), List.mem_map.mpr ⟨p, mem_portNumbers.mpr hp, rfl⟩, if_pos h⟩

/-- What is applied of a character for every port is what the characters say. -/
theorem VlanSim.portMode_setMembers (vsim : VlanSim) (n : ℕ) (f : ℤ → VlanMode) (p : ℤ) :
    (vsim.setMembers ((portNumbers n).map fun q => wire (f q))).portMode p =
      if 1 ≤ p ∧ p ≤ n then f p else .excluded := by
  unfold VlanSim.portMode VlanSim.setMembers
  simp only [mem_codedPorts]
  by_cases hp : 1 ≤ p ∧ p ≤ n
  · cases f p <;> simp [hp, wire]
  · simp [hp]

theorem get?_parseQs (data : Form) (k : Text) :
    (parseQs data).get? k = (data.get? k).bind fun value => if value = [] then none else some value :=
  PyDict.get?_filterMap _ data k

theorem get?_vlanIdForm (v : ℤ) : (vlanIdForm v).get? "VLAN_ID".toList = some (intText v) ∧
    (vlanIdForm v).get? "hiddenMem".toList = none :=
  ⟨rfl, rfl⟩

theorem get?_plusMembershipForm (v : ℤ) (hidden token : Text) :
    (plusMembershipForm v hidden token).get? "VLAN_ID".toList = some (intText v) ∧
      (plusMembershipForm v hidden token).get? "hiddenMem".toList = some hidden :=
  ⟨rfl, rfl⟩

theorem formVlan_parseQs_eq_pyInt {data : Form} {v : ℤ}
    (h : data.get? "VLAN_ID".toList = some (intText v)) (default : ℤ) :
    formVlan (parseQs data) default = pyInt (intText v) := by
  have hget : (parseQs data).get? "VLAN_ID".toList = some (intText v) := by
    rw [get?_parseQs, h, Option.bind_some, if_neg (intText_ne_nil v)]
  rw [formVlan, hget]

theorem formVlan_parseQs {data : Form} {v : ℤ} (h : data.get? "VLAN_ID".toList = some (intText v))
    (hprint : Printable v) (default : ℤ) : formVlan (parseQs data) default = some v :=
  (formVlan_parseQs_eq_pyInt h default).trans (pyInt_intText hprint)

theorem formVlan_parseQs_eq_none {data : Form} {v : ℤ}
    (h : data.get? "VLAN_ID".toList = some (intText v)) (hprint : ¬ Printable v) (default : ℤ) :
    formVlan (parseQs data) default = none := by
  rw [formVlan_parseQs_eq_pyInt h, Option.eq_none_iff_forall_ne_some]
  exact fun n hn => hprint (pyInt_intText_eq_some_iff.mp hn).1

namespace VirtualSwitchState

variable {s : VirtualSwitchState} {v : ℤ}

theorem applyMembershipForm_vlanIdForm :
    s.applyMembershipForm (parseQs (vlanIdForm v)) = some s := by
  rw [applyMembershipForm, get?_parseQs, (get?_vlanIdForm v).2]
  rfl

theorem applyMembershipForm_plusMembershipForm (hprint : Printable v) {hidden : Text}
    (h : hidden ≠ []) (token : Text) :
    s.applyMembershipForm (parseQs (plusMembershipForm v hidden token)) =
      some { s with vlans := s.vlans.modify v fun vsim => vsim.setMembers hidden } := by
  have hform := get?_plusMembershipForm v hidden token
  rw [applyMembershipForm, get?_parseQs, hform.2, Option.bind_some, if_neg h]
  dsimp only
  rw [get?_parseQs, hform.1, Option.bind_some, if_neg (intText_ne_nil v)]
  show (pyInt (intText v)).bind _ = _
  rw [pyInt_intText hprint]
  rfl

/-- Where a port stands in a VLAN of the state. -/
def portMode (s : VirtualSwitchState) (v p : ℤ) : VlanMode :=
  ((s.vlans.get? v).map fun vsim => vsim.portMode p).getD .excluded

/-- The VLANs a Plus page can show: their members are ports of the model, their untagged members
members. -/
def PlusTidy (s : VirtualSwitchState) : Prop :=
  ∀ v vsim, s.vlans.get? v = some vsim →
    (∀ p ∈ vsim.member, 1 ≤ p ∧ p ≤ s.model.portCount) ∧ vsim.untagged ⊆ vsim.member

end VirtualSwitchState

/-- The address of the membership page of a Plus model, and which of its pages answers. -/
theorem spec_of_modelKey (w : PlusWriter) :
    (w.modelKey = .gs305ep ∧ w.spec.sessionTokenField = none ∧ w.spec.htmlDialect = .standard ∨
      w.modelKey = .gs105pe ∧ w.spec.sessionTokenField = none ∧ w.spec.htmlDialect = .gs105pe ∨
      w.modelKey = .gs110emx ∧ w.spec.sessionTokenField.isSome) ∧
    ∃ path, w.spec.vlanMembershipPath = some path := by
  obtain ⟨key, spec, isSpec, isPlus, ports⟩ := w
  cases key <;> cases isSpec
  case gs305ep => exact ⟨.inl ⟨rfl, rfl, rfl⟩, _, rfl⟩
  case gs105pe => exact ⟨.inr (.inl ⟨rfl, rfl, rfl⟩), _, rfl⟩
  case gs110emx => exact ⟨.inr (.inr ⟨rfl, rfl⟩), _, rfl⟩
  case gs728tpp => cases isPlus.2
  all_goals cases isPlus.1

section Write

variable {w : PlusWriter} {page : VlanmemPage}
  {elsewhere : Machine VirtualSwitchState Call (Except LibError Text)} {s : VirtualSwitchState}
  {v p : ℤ} {mode : VlanMode} {force : Bool}

/-- The write of a port of a VLAN returns normally, with that port in that mode and nothing else
changed. -/
def SetsMode (face : Machine VirtualSwitchState Call (Except LibError Text)) (w : PlusWriter)
    (s : VirtualSwitchState) (v p : ℤ) (mode : VlanMode) (force : Bool) : Prop :=
  ∃ s', Ends face (w.setVlanMembership v p mode force) s (.ok ()) s' ∧
    s' = { s with vlans := s'.vlans } ∧
    (∀ q, s'.portMode v q = if q = p then mode else s.portMode v q) ∧
    ∀ u ≠ v, s'.vlans.get? u = s.vlans.get? u

theorem plusFace_postForm {path : Text} (hpath : w.spec.vlanMembershipPath = some path)
    (data : Form) : plusFace page w.spec elsewhere s (.postForm path data) =
      s.postMembershipPage page w.spec (parseQs data) :=
  if_pos hpath

theorem portMode_of_get? {vsim : VlanSim} (hv : s.vlans.get? v = some vsim) :
    s.portMode v = vsim.portMode := by
  funext q
  rw [VirtualSwitchState.portMode, hv]
  rfl

/-- The state with the VLAN rewritten from a character for every port. -/
def rewritten (s : VirtualSwitchState) (v : ℤ) (f : ℤ → VlanMode) : VirtualSwitchState :=
  { s with vlans := s.vlans.modify v fun vsim =>
      vsim.setMembers ((portNumbers s.model.portCount).map fun q => wire (f q)) }

theorem portMode_rewritten (htidy : s.PlusTidy) (hv : v ∈ s.vlans)
    (hp : 1 ≤ p ∧ p ≤ s.model.portCount) (q : ℤ) :
    (rewritten s v fun q => if q = p then mode else s.portMode v q).portMode v q =
      if q = p then mode else s.portMode v q := by
  obtain ⟨vsim, hvsim⟩ := PyDict.mem_iff.mp hv
  have hget : (rewritten s v fun q => if q = p then mode else s.portMode v q).vlans.get? v =
      some (vsim.setMembers ((portNumbers s.model.portCount).map fun q =>
        wire (if q = p then mode else s.portMode v q))) := by
    rw [rewritten, PyDict.get?_modify, if_pos rfl, hvsim]
    rfl
  rw [portMode_of_get? hget, VlanSim.portMode_setMembers]
  by_cases hq : 1 ≤ q ∧ q ≤ s.model.portCount
  · rw [if_pos hq]
  · -- A port the page has no character for is no member, before as after.
    have hne : q ≠ p := fun h => hq (h ▸ hp)
    have hmember : q ∉ vsim.member := fun h => hq ((htidy v vsim hvsim).1 q h)
    rw [if_neg hq, if_neg hne, portMode_of_get? hvsim, VlanSim.portMode, if_pos hmember]

theorem spec_gs305ep (hkey : w.modelKey = .gs305ep) :
    w.spec.sessionTokenField = none ∧ w.spec.htmlDialect = .standard := by
  rcases (spec_of_modelKey w).1 with ⟨_, h⟩ | ⟨h, _⟩ | ⟨h, _⟩
  · exact h
  · rw [hkey] at h
    cases h
  · rw [hkey] at h
    cases h

theorem spec_gs105pe (hkey : w.modelKey = .gs105pe) :
    w.spec.sessionTokenField = none ∧ w.spec.htmlDialect = .gs105pe := by
  rcases (spec_of_modelKey w).1 with ⟨h, _⟩ | ⟨_, h⟩ | ⟨h, _⟩
  · rw [hkey] at h
    cases h
  · exact h
  · rw [hkey] at h
    cases h

/-- The generic page applies what is posted to it and shows the VLAN. -/
theorem plusFace_gs305ep (hkey : w.modelKey = .gs305ep) {path : Text}
    (hpath : w.spec.vlanMembershipPath = some path) (hprint : Printable v)
    {s s' : VirtualSwitchState} {data : Form}
    (hdata : data.get? "VLAN_ID".toList = some (intText v))
    (happly : s.applyMembershipForm (parseQs data) = some s') :
    plusFace page w.spec elsewhere s (.postForm path data) = (s', .ok (s'.renderMembership w.spec v)) := by
  obtain ⟨htoken, hdialect⟩ := spec_gs305ep hkey
  rw [plusFace_postForm hpath, VirtualSwitchState.postMembershipPage, htoken, hdialect,
    if_neg (by decide), if_neg (by decide), happly, formVlan_parseQs hdata hprint]
  rfl

/-- The GS105PE page shows the VLAN. -/
theorem plusFace_gs105pe (hkey : w.modelKey = .gs105pe) {path : Text}
    (hpath : w.spec.vlanMembershipPath = some path) (hprint : Printable v) {data : Form}
    (hdata : data.get? "VLAN_ID".toList = some (intText v)) :
    plusFace page w.spec elsewhere s (.postForm path data) =
      (s, .ok (s.renderGs105peMembership (s.gs105peVlan v))) := by
  obtain ⟨htoken, hdialect⟩ := spec_gs105pe hkey
  rw [plusFace_postForm hpath, VirtualSwitchState.postMembershipPage, htoken, hdialect,
    if_neg (by decide), if_pos rfl, formVlan_parseQs hdata hprint]
  rfl

/-- The generic page applies the form. -/
theorem ends_gs305ep (hkey : w.modelKey = .gs305ep) (hprint : Printable v)
    (hstate : s.modelKey = w.modelKey) (htidy : s.PlusTidy) (hv : v ∈ s.vlans)
    (hp : 1 ≤ p ∧ p ≤ s.model.portCount)
    (hguard : ¬ (p ∈ w.protectedPorts ∧ ¬ force)) :
    Ends (plusFace page w.spec elsewhere) (w.setVlanMembership v p mode force) s (.ok ())
      (rewritten s v fun q => if q = p then mode else s.portMode v q) := by
  obtain ⟨vsim, hvsim⟩ := PyDict.mem_iff.mp hv
  obtain ⟨-, path, hpath⟩ := spec_of_modelKey w
  have hcsrf : dialectHasCsrfHash w.spec.htmlDialect = true := by
    rw [(spec_gs305ep hkey).2]
    rfl
  have hpost : ∀ {s s' : VirtualSwitchState} {data : Form},
      data.get? "VLAN_ID".toList = some (intText v) → s.applyMembershipForm (parseQs data) = some s' →
      plusFace page w.spec elsewhere s (.postForm path data) =
        (s', .ok (s'.renderMembership w.spec v)) := plusFace_gs305ep hkey hpath hprint
  have hcount : w.portCount = s.model.portCount := by rw [PlusWriter.portCount, ← hstate]
  obtain ⟨hread, htok⟩ := VirtualSwitchState.parseMembership_renderMembership hcsrf hvsim
  have hhidden : membershipHiddenMem ((PyDict.ofList
        (s.webPorts.map fun p => (p, vsim.portMode p))).set p mode) w.portCount =
      (portNumbers s.model.portCount).map fun q =>
        wire (if q = p then mode else s.portMode v q) := by
    rw [membershipHiddenMem, hcount]
    refine List.map_congr_left fun q hq => ?_
    rw [PyDict.get?_set, VirtualSwitchState.webPorts,
      PyDict.get?_ofList_map (nodup_portNumbers _), if_pos hq, portMode_of_get? hvsim]
    split_ifs <;> rfl
  have hne : (portNumbers s.model.portCount).map (fun q =>
      wire (if q = p then mode else s.portMode v q)) ≠ [] := by
    rw [Ne, List.map_eq_nil_iff]
    exact List.ne_nil_of_mem (mem_portNumbers.mpr hp)
  have hmodes : ∀ q, (rewritten s v fun q => if q = p then mode else s.portMode v q).portMode v q =
      if q = p then mode else s.portMode v q := portMode_rewritten htidy hv hp
  obtain ⟨s', hs'⟩ : ∃ s', s' = rewritten s v fun q => if q = p then mode else s.portMode v q :=
    ⟨_, rfl⟩
  rw [← hs'] at hmodes
  have hv' : v ∈ s'.vlans := by
    rw [hs']
    exact PyDict.mem_modify.mpr hv
  obtain ⟨vsim', hvsim'⟩ := PyDict.mem_iff.mp hv'
  have hmodel : s'.model = s.model := by
    rw [hs']
    rfl
  obtain ⟨hafter, -⟩ := VirtualSwitchState.parseMembership_renderMembership hcsrf hvsim'
  have hwrite : s.applyMembershipForm (parseQs (plusMembershipForm v
      (membershipHiddenMem ((PyDict.ofList
        (s.webPorts.map fun p => (p, vsim.portMode p))).set p mode) w.portCount) webHash)) =
      some s' := by
    rw [hhidden, VirtualSwitchState.applyMembershipForm_plusMembershipForm hprint hne, hs']
    rfl
  rw [← hcount] at hread
  rw [hmodel, ← hcount] at hafter
  have hend := PlusWriter.ends_setVlanMembership hguard hpath
    (hpost (get?_vlanIdForm v).1 VirtualSwitchState.applyMembershipForm_vlanIdForm) hread htok
    (hpost (get?_plusMembershipForm v _ webHash).1 hwrite)
    (hpost (get?_vlanIdForm v).1 VirtualSwitchState.applyMembershipForm_vlanIdForm) hafter
  have hshown : (PyDict.ofList (s'.webPorts.map fun p => (p, vsim'.portMode p))).get? p =
      some mode := by
    rw [VirtualSwitchState.webPorts, hmodel, PyDict.get?_ofList_map (nodup_portNumbers _),
      if_pos (mem_portNumbers.mpr hp), ← portMode_of_get? hvsim', hmodes p, if_pos rfl]
  rw [if_pos hshown] at hend
  rw [← hs']
  exact hend

theorem setsMode_gs305ep (hkey : w.modelKey = .gs305ep) (hprint : Printable v)
    (hstate : s.modelKey = w.modelKey) (htidy : s.PlusTidy) (hv : v ∈ s.vlans)
    (hp : 1 ≤ p ∧ p ≤ s.model.portCount)
    (hguard : ¬ (p ∈ w.protectedPorts ∧ ¬ force)) :
    SetsMode (plusFace page w.spec elsewhere) w s v p mode force := by
  refine ⟨_, ends_gs305ep hkey hprint hstate htidy hv hp hguard, rfl, portMode_rewritten htidy hv hp,
    fun u hu => ?_⟩
  rw [rewritten, PyDict.get?_modify, if_neg hu]

/-- The GS105PE page shows what it is asked for and applies nothing. -/
theorem ends_gs105pe (hkey : w.modelKey = .gs105pe) (hprint : Printable v)
    (hstate : s.modelKey = w.modelKey) (htidy : s.PlusTidy) (hv : v ∈ s.vlans)
    (hp : 1 ≤ p ∧ p ≤ s.model.portCount)
    (hguard : ¬ (p ∈ w.protectedPorts ∧ ¬ force)) :
    Ends (plusFace page w.spec elsewhere) (w.setVlanMembership v p mode force) s
      (if s.portMode (s.gs105peVlan v) p = mode then .ok () else .error .writeVerification) s := by
  obtain ⟨-, path, hpath⟩ := spec_of_modelKey w
  have hpost : ∀ {data : Form}, data.get? "VLAN_ID".toList = some (intText v) →
      plusFace page w.spec elsewhere s (.postForm path data) =
        (s, .ok (s.renderGs105peMembership (s.gs105peVlan v))) :=
    plusFace_gs105pe hkey hpath hprint
  have hshown : s.gs105peVlan v ∈ s.vlans := by
    rw [VirtualSwitchState.gs105peVlan]
    by_cases hzero : v = 0
    · rw [if_pos hzero]
      cases hmin : s.vlans.keys.min? with
      | none =>
        have hnil : s.vlans.keys = [] := List.min?_eq_none_iff.mp hmin
        rw [PyDict.mem_def, hnil] at hv
        cases hv
      | some least => exact PyDict.mem_def.mpr (List.min?_mem hmin)
    · rwa [if_neg hzero]
  obtain ⟨vsim, hvsim⟩ := PyDict.mem_iff.mp hshown
  obtain ⟨hread, htok⟩ := VirtualSwitchState.parseMembership_renderGs105peMembership hvsim
    (htidy _ _ hvsim).2
  have hcount : w.portCount = s.model.portCount := by rw [PlusWriter.portCount, ← hstate]
  rw [← hcount] at hread
  have hwrite := hpost (get?_plusMembershipForm v (membershipHiddenMem
    ((PyDict.ofList (s.webPorts.map fun p => (p, vsim.portMode p))).set p mode) w.portCount)
    virtualCsrfHash).1
  have hend := PlusWriter.ends_setVlanMembership hguard hpath (hpost (get?_vlanIdForm v).1) hread
    htok hwrite (hpost (get?_vlanIdForm v).1) hread
  have hget : (PyDict.ofList (s.webPorts.map fun p => (p, vsim.portMode p))).get? p =
      some (s.portMode (s.gs105peVlan v) p) := by
    rw [VirtualSwitchState.webPorts, PyDict.get?_ofList_map (nodup_portNumbers _),
      if_pos (mem_portNumbers.mpr hp), portMode_of_get? hvsim]
  rw [hget] at hend
  simpa only [Option.some.injEq] using hend

theorem setsMode_gs105pe_iff (hkey : w.modelKey = .gs105pe) (hprint : Printable v)
    (hstate : s.modelKey = w.modelKey) (htidy : s.PlusTidy) (hv : v ∈ s.vlans)
    (hp : 1 ≤ p ∧ p ≤ s.model.portCount)
    (hguard : ¬ (p ∈ w.protectedPorts ∧ ¬ force)) :
    SetsMode (plusFace page w.spec elsewhere) w s v p mode force ↔
      s.portMode v p = mode ∧ s.portMode (s.gs105peVlan v) p = mode := by
  have hend : Ends (plusFace page w.spec elsewhere) (w.setVlanMembership v p mode force) s
      (if s.portMode (s.gs105peVlan v) p = mode then .ok () else .error .writeVerification) s :=
    ends_gs105pe hkey hprint hstate htidy hv hp hguard
  constructor
  · rintro ⟨s', hs', _, hmodes, _⟩
    obtain ⟨hresult, rfl⟩ := hend.unique hs'
    have hmode := hmodes p
    rw [if_pos rfl] at hmode
    refine ⟨hmode, ?_⟩
    by_contra hne
    rw [if_neg hne] at hresult
    cases hresult
  · rintro ⟨hmode, hshown⟩
    rw [if_pos hshown] at hend
    refine ⟨s, hend, rfl, fun q => ?_, fun _ _ => rfl⟩
    by_cases hq : q = p
    · rw [if_pos hq, hq, hmode]
    · rw [if_neg hq]

theorem not_setsMode_gs110emx (hkey : w.modelKey = .gs110emx) (hprint : Printable v) :
    ¬ SetsMode (plusFace page w.spec elsewhere) w s v p mode force := by
  obtain ⟨hspec, path, hpath⟩ := spec_of_modelKey w
  have htoken : w.spec.sessionTokenField.isSome = true := by
    rcases hspec with ⟨h, _⟩ | ⟨h, _⟩ | ⟨_, h⟩
    · rw [hkey] at h
      cases h
    · rw [hkey] at h
      cases h
    · exact h
  have hask : plusFace page w.spec elsewhere s (.postForm path (vlanIdForm v)) =
      (s, .ok (s.renderGs110emxMembership page v)) := by
    rw [plusFace_postForm hpath, VirtualSwitchState.postMembershipPage, if_pos htoken,
      formVlan_parseQs (get?_vlanIdForm v).1 hprint]
    rfl
  rintro ⟨s', hend, _⟩
  exact PlusWriter.not_ends_setVlanMembership hpath hask
    (VirtualSwitchState.csrf_renderGs110emxMembership page) hend

/-- A VLAN number that is too long for int() is refused by each of the three pages. -/
theorem not_setsMode_of_not_printable (hprint : ¬ Printable v) :
    ¬ SetsMode (plusFace page w.spec elsewhere) w s v p mode force := by
  obtain ⟨-, path, hpath⟩ := spec_of_modelKey w
  have hvlan : ∀ default, formVlan (parseQs (vlanIdForm v)) default = none :=
    formVlan_parseQs_eq_none (get?_vlanIdForm v).1 hprint
  have hask : plusFace page w.spec elsewhere s (.postForm path (vlanIdForm v)) = (s, .error .http) := by
    rw [plusFace_postForm hpath, VirtualSwitchState.postMembershipPage, hvlan, hvlan,
      VirtualSwitchState.applyMembershipForm_vlanIdForm]
    split_ifs <;> rfl
  rintro ⟨s', hend, _⟩
  exact PlusWriter.not_ends_setVlanMembership_of_error hpath hask hend

end Write

/-- **The membership page of a Plus model.**  What is read of a page inverts what is written on
it, for every map of the ports to modes; and a write of one port does what it says exactly where
the number of the VLAN is one that `int` reads, and the model's page applies a form or the port
already stands there. -/
theorem setVlanMembership_plus_iff (w : PlusWriter) (page : VlanmemPage)
    (elsewhere : Machine VirtualSwitchState Call (Except LibError Text)) (s : VirtualSwitchState)
    (v p : ℤ) (mode : VlanMode) (force : Bool) (hstate : s.modelKey = w.modelKey)
    (htidy : s.PlusTidy) (hv : v ∈ s.vlans) (hp : 1 ≤ p ∧ p ≤ s.model.portCount)
    (hguard : ¬ (p ∈ w.protectedPorts ∧ ¬ force)) :
    (∀ (front back : Text) (states : PyDict ℤ VlanMode) (n : ℕ),
      clear same hiddenMemId front = true → (∀ p, p ∈ states ↔ 1 ≤ p ∧ p ≤ n) →
        ∃ read, parseMembership (front ++ (hiddenMemInput (membershipHiddenMem states n) ++ back)) n =
            .ok read ∧ ∀ p, read.get? p = states.get? p) ∧
    (SetsMode (plusFace page w.spec elsewhere) w s v p mode force ↔
      Printable v ∧ (w.modelKey = .gs305ep ∨ w.modelKey = .gs105pe ∧ s.portMode v p = mode ∧
        s.portMode (s.gs105peVlan v) p = mode)) := by
  constructor
  · intro front back states n hfront hstates
    exact parseMembership_hiddenMem back hfront hstates
  by_cases hprint : Printable v
  · obtain ⟨hspec, -⟩ := spec_of_modelKey w
    rcases hspec with ⟨hkey, _⟩ | ⟨hkey, _⟩ | ⟨hkey, _⟩
    · exact ⟨fun _ => ⟨hprint, .inl hkey⟩,
        fun _ => setsMode_gs305ep hkey hprint hstate htidy hv hp hguard⟩
    · rw [setsMode_gs105pe_iff hkey hprint hstate htidy hv hp hguard]
      simp [hkey, hprint]
    · refine iff_of_false (not_setsMode_gs110emx hkey hprint) ?_
      simp [hkey]
  · exact iff_of_false (not_setsMode_of_not_printable hprint) fun h => hprint h.1

/-- A Plus model with two VLANs: every port is untagged in the first, one tagged in the second. -/
def plusState (key : ModelKey) : VirtualSwitchState where
  modelKey := key
  vlans := .ofList [(1, { name := [], member := {1, 2, 3, 4, 5}, untagged := {1, 2, 3, 4, 5} }),
    (7, { name := [], member := {2} })]
  pvids := .ofList [(1, 1), (2, 1), (3, 1), (4, 1), (5, 1)]

def gs305epWriter : PlusWriter where
  modelKey := .gs305ep
  spec := (httpSpec .gs305ep).get rfl
  isSpec := rfl
  isPlus := ⟨rfl, rfl⟩

def gs105peWriter : PlusWriter where
  modelKey := .gs105pe
  spec := (httpSpec .gs105pe).get rfl
  isSpec := rfl
  isPlus := ⟨rfl, rfl⟩

/-- A template with nothing but its placeholders. -/
def blankVlanmemPage : VlanmemPage where
  head := []
  middle := []
  tail := []
  noHash := by decide

/-- A face that answers nothing off the membership page. -/
def offPage : Machine VirtualSwitchState Call (Except LibError Text) := fun s _ => (s, .error .http)

theorem plusTidy_plusState (key : ModelKey) (hcount : (getModel key).portCount = 5) :
    (plusState key).PlusTidy := by
  have hall : ∀ e ∈ (plusState .gs305ep).vlans.items,
      (∀ p ∈ e.2.member, 1 ≤ p ∧ p ≤ 5) ∧ e.2.untagged ⊆ e.2.member := by decide
  intro v vsim hv
  obtain ⟨hmember, hsub⟩ := hall (v, vsim) (PyDict.mem_items_of_get? hv)
  refine ⟨fun p hp => ?_, hsub⟩
  show 1 ≤ p ∧ p ≤ ((getModel key).portCount : ℤ)
  rw [hcount]
  exact hmember p hp

theorem setVlanMembership_plus_iff_lab :
    (∃ read, parseMembership (membershipHead ++ (hiddenMemInput (membershipHiddenMem
        (.ofList [(1, .tagged), (2, .untagged)]) 2) ++ membershipTail)) 2 = .ok read ∧
      read.get? 1 = some .tagged) ∧
    SetsMode (plusFace blankVlanmemPage gs305epWriter.spec offPage) gs305epWriter
      (plusState .gs305ep) 7 3 .untagged false := by
  obtain ⟨hread, hsets⟩ := setVlanMembership_plus_iff gs305epWriter blankVlanmemPage offPage
    (plusState .gs305ep) 7 3 .untagged false rfl (plusTidy_plusState _ (by decide)) (by decide)
    (by decide) (by decide)
  constructor
  · obtain ⟨read, hread, hget⟩ := hread membershipHead membershipTail
      (.ofList [(1, .tagged), (2, .untagged)]) 2 (by decide) fun p => by
        rw [PyDict.mem_ofList]
        simp only [List.map_cons, List.map_nil, List.mem_cons, List.not_mem_nil, or_false]
        omega
    exact ⟨read, hread, (hget 1).trans (by decide)⟩
  · have hprint : Printable 7 := printable_of_lt (k := 20) (by decide) (by decide) (by decide)
    exact hsets.mpr ⟨hprint, .inl rfl⟩

/-- The GS105PE page applies no form: a port that is to leave its mode stays, and the write
raises. -/
theorem not_setsMode_gs105pe : (plusState .gs105pe).PlusTidy ∧ 7 ∈ (plusState .gs105pe).vlans ∧
    ((plusState .gs105pe).modelKey = gs105peWriter.modelKey ∧
      (3 : ℤ) ≤ (plusState .gs105pe).model.portCount) ∧
    Ends (plusFace blankVlanmemPage gs105peWriter.spec offPage)
      (gs105peWriter.setVlanMembership 7 3 .untagged false) (plusState .gs105pe)
      (.error .writeVerification) (plusState .gs105pe) ∧
    ¬ SetsMode (plusFace blankVlanmemPage gs105peWriter.spec offPage) gs105peWriter
      (plusState .gs105pe) 7 3 .untagged false := by
  have hend : Ends (plusFace blankVlanmemPage gs105peWriter.spec offPage)
      (gs105peWriter.setVlanMembership 7 3 .untagged false) (plusState .gs105pe)
      (if (plusState .gs105pe).portMode ((plusState .gs105pe).gs105peVlan 7) 3 = .untagged then .ok ()
        else .error .writeVerification) (plusState .gs105pe) :=
    ends_gs105pe rfl (printable_of_lt (k := 20) (by decide) (by decide) (by decide)) rfl
      (plusTidy_plusState _ (by decide)) (by decide) (by decide) (by decide)
  rw [if_neg (by decide)] at hend
  refine ⟨plusTidy_plusState _ (by decide), by decide, by decide, hend, ?_⟩
  rintro ⟨s', hs', _⟩
  cases (hend.unique hs').1

end NetgearSwitch.Virtual
