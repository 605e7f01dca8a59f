import NetgearSwitch.Errors
import NetgearSwitch.Http.IfaceNames
import NetgearSwitch.Lib.PyDict

/-!
# The VLAN membership page of the FASTPATH firmwares

`parse_fastpath_membership` and `fastpath_hidden_mem_with` of `protocols/http/parse.py`: the page
is read by its patterns, each port of its grid gets a slot of the comma-separated `hiddenMem`
codes, and a write replaces the code in the port's slot.

What the patterns take as a letter of a word, as the same letter in another case and as the lower
case of a text, and the named character references, are tables.
-/

namespace NetgearSwitch.Http

open PyText PyRe

/-- The tables of `re`, `str.lower` and `html` the pages are read with. -/
structure PageTables where
  named : Text → Option Text
  isWord : Char → Bool
  sameFold : Char → Char → Bool
  lower : Text → Text

/-! ## §1 Tags and their attributes -/

section Patterns

variable (T : PageTables) {α : Type}

/-- The word `w` under `IGNORECASE`. -/
def foldLit (w : String) (k : Rest α) : Rest α := fun s => (takeWord T.sameFold w.toList s).bind k

/-- `\b` behind a word. -/
def endOfWord (k : Rest α) : Rest α
  | [] => k []
  | c :: s => if T.isWord c then none else k (c :: s)

/-- A group: what `m` took of the text. -/
def group (m : Rest α → Rest α) (k : Text → Rest α) : Rest α := fun s =>
  m (fun left => k (s.take (s.length - left.length)) left) s

/-- `[^c]` -/
def isNot (c : Char) : Char → Bool := fun d => d != c

/-- `.` under `DOTALL`. -/
def isAny : Char → Bool := fun _ => true

/-- `_BARE_ATTR_RE`: the attribute, and its value if it has one. -/
def bareAttrRe (k : Text × Option Text → Rest α) : Rest α :=
  many1 (fun c => T.isWord c || c == '.' || c == '-') fun key =>
    alt
      (many isSpace fun _ => lit "=" <| many isSpace fun _ =>
        alt (lit "\"" <| many (isNot '"') fun v => lit "\"" <| k (key, some v)) <|
        alt (lit "'" <| many (isNot '\'') fun v => lit "'" <| k (key, some v)) <|
        many1 (fun c => !isSpace c && c != '>') fun v => k (key, some v))
      (k (key, none))

/-- One attribute entered into the map. -/
def addAttr (out : PyDict Text Text) (attr : Text × Option Text) : PyDict Text Text :=
  match attr.2 with
  | none => out.setDefault (T.lower attr.1) []
  | some v => out.set (T.lower attr.1) v

/-- `_tag_attrs`. -/
def tagAttrs (raw : Text) : PyDict Text Text := (finditer (bareAttrRe T done) raw).foldl (addAttr T) ∅

/-- `<word\b([^>]*)>` under `IGNORECASE`: the inner text. -/
def tagRe (word : String) (k : Text → Rest α) : Rest α :=
  lit "<" <| foldLit T word <| endOfWord T <| many (isNot '>') fun raw => lit ">" <| k raw

/-- `_INPUT_RE`. -/
def inputRe (k : Text → Rest α) : Rest α := tagRe T "input" k

/-- `_OPTION_RE`. -/
def optionRe (k : Text → Rest α) : Rest α := tagRe T "option" k

/-- `_SELECT_RE`: the inner texts of the tag and of the element. -/
def selectRe (k : Text × Text → Rest α) : Rest α :=
  tagRe T "select" fun raw => manyLazy isAny fun inner => lit "</" <| foldLit T "select" <|
    lit ">" <| k (raw, inner)

/-- `_FASTPATH_MEM_ACTION_RE`: the form's target. -/
def memActionRe (k : Text → Rest α) : Rest α :=
  lit "<" <| foldLit T "form" <| many1 isSpace fun _ => foldLit T "method" <| lit "=" <|
    opt (lit "\"") <| foldLit T "post" <| opt (lit "\"") <| many1 isSpace fun _ =>
    foldLit T "ACTION" <| lit "=\"" <|
    group (fun k' => many (isNot '"') fun _ => foldLit T "vlan_port_cfg_rw" <| lit "." <|
      foldLit T "html" k') fun action => lit "\"" <| k action

/-- `_VLANID_SELECT_RE`: the inner text of the element. -/
def vlanIdSelectRe (k : Text → Rest α) : Rest α :=
  lit "<" <| foldLit T "select" <| many (isNot '>') fun _ => foldLit T "name" <| lit "=\"" <|
    foldLit T "vlanId" <| lit "\"" <| many (isNot '>') fun _ => lit ">" <|
    manyLazy isAny fun inner => lit "</" <| foldLit T "select" <| lit ">" <| k inner

end Patterns

/-! ## §2 The fields of the form -/

/-- The value a `<select>` submits: that of its selected option, else of the first. -/
def selectedValue (T : PageTables) (inner : Text) : Text :=
  let options := (finditer (optionRe T done) inner).map (tagAttrs T)
  let chosen := (options.find? fun o => "selected".toList ∈ o).or options.head?
  ((chosen.bind fun o => o.get? "value".toList)).getD []

/-- `_fastpath_form_fields`. -/
def fastpathFormFields (T : PageTables) (block : Text) : PyDict Text Text :=
  let inputs := (finditer (inputRe T done) block).foldl (fun fields raw =>
    let attrs := tagAttrs T raw
    let name := (attrs.get? "name".toList).getD []
    if name = [] then fields else fields.set name ((attrs.get? "value".toList).getD [])) ∅
  (finditer (selectRe T done) block).foldl (fun fields (raw, inner) =>
    let name := ((tagAttrs T raw).get? "name".toList).getD []
    if name = [] then fields else fields.set name (selectedValue T inner)) inputs

/-! ## §3 The port grid -/

/-- `_FASTPATH_MEM_TO_MODE`. -/
def memToMode (code : Text) : Option VlanMode :=
  if code = "1".toList then some .tagged
  else if code = "2".toList then some .untagged
  else if code = "3".toList then some .excluded
  else none

/-- `_MODE_TO_FASTPATH_MEM`. -/
def modeToMem : VlanMode → Text
  | .tagged => "1".toList
  | .untagged => "2".toList
  | .excluded => "3".toList

/-- `_FASTPATH_IMG_TO_MODE`. -/
def imgToMode (state : Text) : Option VlanMode :=
  if state = "t".toList ∨ state = "tagged".toList then some .tagged
  else if state = "u".toList ∨ state = "untagged".toList then some .untagged
  else if state = "b".toList ∨ state = "blank".toList then some .excluded
  else none

def isLowerAZ (c : Char) : Bool := 'a' ≤ c && c ≤ 'z'

def isLetterAZ (c : Char) : Bool := isLowerAZ c || ('A' ≤ c && c ≤ 'Z')

section Grid

variable {α : Type}

/-- `_FASTPATH_GRID_A_RE`: the slot, the interface and the state. -/
def gridARe (k : Text × Text × Text → Rest α) : Rest α :=
  lit "toggleImageFirst(this," <| many1 isDecimal fun slot => lit "," <| many1 isDecimal fun _ =>
    lit ",'img_unit" <| many1 isDecimal fun _ => lit "'," <| many1 isDecimal fun intf => lit ")" <|
    manyLazy isAny fun _ => lit "<img src=\"/base/images/" <| alt
      (lit "grey_" <| one (fun c => c == 'b' || c == 't' || c == 'u') fun state =>
        lit ".gif\" name=\"imx\"" <| k (slot, intf, [state]))
      (lit "blue_" <| one (fun c => c == 'b' || c == 't' || c == 'u') fun state =>
        lit ".gif\" name=\"imx\"" <| k (slot, intf, [state]))

/-- `_FASTPATH_GRID_TABLE_RE`: the inner text of a grid table. -/
def gridTableRe (T : PageTables) (k : Text → Rest α) : Rest α :=
  lit "<" <| foldLit T "table" <| many (isNot '>') fun _ => foldLit T "id" <| lit "=\"" <|
    foldLit T "unit" <| many1 isDecimal fun _ => foldLit T "tb" <| lit "\"" <|
    many (isNot '>') fun _ => lit ">" <| manyLazy isAny fun inner => lit "</" <|
    foldLit T "table" <| lit ">" <| k inner

/-- `_FASTPATH_GRID_LABEL_RE`: the label. -/
def gridLabelRe (k : Text → Rest α) : Rest α :=
  lit "<td" <| many (isNot '>') fun _ => lit ">" <| many isSpace fun _ =>
    many1 isLetterAZ fun label => many isSpace fun _ => lit "</td>" <| k label

/-- `_FASTPATH_GRID_B_RE`: the interface's name, the state and the 1-based slot. -/
def gridBRe (k : Text × Text × Text → Rest α) : Rest α :=
  lit "aid='port-" <| many1 (isNot '\'') fun name => lit "'" <| manyLazy (isNot '>') fun _ =>
    lit "src='" <| many (isNot '\'') fun _ => lit "/switch_" <| many1Lazy isLowerAZ fun state =>
    opt (lit "_bottom") <| lit "_" <| many1 isLowerAZ fun _ => lit ".png'" <|
    manyLazy (isNot '>') fun _ => lit "name='imx'" <| manyLazy (isNot '>') fun _ =>
    lit "togImg(this," <| many1 isDecimal fun slot => lit "," <| many1 isDecimal fun _ =>
    lit ",\"hiddenMem\")" <| k (name, state, slot)

end Grid

/-- The grid: the slot and the rendered mode of each port. -/
abbrev PortGrid := PyDict ℕ (ℤ × VlanMode)

/-- `int` of a run of digits. -/
def readNat (digits : Text) : Except LibError ℕ := orRaise .valueError (intOfDecimals digits)

/-- One cell of the newer grid; its slots count from 1. -/
def addCellB (T : PageTables) (grid : PortGrid) (cell : Text × Text × Text) :
    Except LibError PortGrid := do
  let port ← orRaise .valueError (fastpathPhysicalPort T.named cell.1)
  match port, imgToMode cell.2.1 with
  | some port, some mode => do
    let slot ← readNat cell.2.2
    .ok (grid.set port ((slot : ℤ) - 1, mode))
  | _, _ => .ok grid

/-- One cell of the older grid. -/
def addCellA (grid : PortGrid) (cell : Text × Text × Text) : Except LibError PortGrid :=
  match imgToMode cell.2.2 with
  | none => .ok grid
  | some mode => do
    let intf ← readNat cell.2.1
    let slot ← readNat cell.1
    .ok (grid.set intf ((slot : ℤ), mode))

/-- One table of the older grid; those that are not labelled as ports are passed over. -/
def addTable (grid : PortGrid) (table : Text) : Except LibError PortGrid :=
  match search (gridLabelRe fun label _ => some label) table with
  | none => .ok grid
  | some label =>
    if label.map Char.toLower ≠ "port".toList then .ok grid
    else (finditer (gridARe done) table).foldlM addCellA grid

/-- `_fastpath_grid`. -/
def fastpathGrid (T : PageTables) (block : Text) : Except LibError PortGrid := do
  let grid ← (finditer (gridBRe done) block).foldlM (addCellB T) ∅
  if grid.items ≠ [] then .ok grid
  else do
    let grid ← (finditer (gridTableRe T done) block).foldlM addTable grid
    if grid.items = [] then .error .httpUnexpectedPage else .ok grid

/-! ## §4 The page -/

/-- `html.unescape`. -/
def unescape (T : PageTables) (t : Text) : Except LibError Text :=
  orRaise .valueError (Html.unescape T.named t)

/-- `_fastpath_iface_list`. -/
def fastpathIfaceList (T : PageTables) (raw : Text) : Except LibError (Finset ℕ) := do
  let text ← unescape T raw
  let ports ← ((text.splitOn ',').filter fun part => strip part ≠ []).mapM fun part =>
    orRaise .valueError (fastpathPhysicalPort T.named part)
  .ok (ports.reduceOption.toFinset)

/-- One option of the VLAN menu: what it shows as selected, and the VLANs so far. -/
def addVlanOption (T : PageTables) (shown : Option ℕ × Finset ℕ) (raw : Text) :
    Except LibError (Option ℕ × Finset ℕ) :=
  let attrs := tagAttrs T raw
  let value := (attrs.get? "value".toList).getD []
  if !isDigitText value then .ok shown
  else do
    let vid ← orRaise .valueError (intOfDigits value)
    .ok (if "selected".toList ∈ attrs then some vid else shown.1, insert vid shown.2)

/-- `_fastpath_vlan_select`. -/
def fastpathVlanSelect (T : PageTables) (block : Text) : Except LibError (Option ℕ × List ℕ) := do
  let inner ← orRaise .httpUnexpectedPage (search (vlanIdSelectRe T fun inner _ => some inner) block)
  let (selected, ids) ← (finditer (optionRe T done) inner).foldlM (addVlanOption T) (none, ∅)
  .ok (selected, PySet.sorted ids)

/-- `FastpathMembership`; an empty name or type is none. -/
structure FastpathMembership where
  vlanId : Option ℕ
  vlanIds : List ℕ
  name : Text
  vlanType : Text
  taggedPorts : Finset ℕ
  untaggedPorts : Finset ℕ
  hiddenMem : Text
  portSlots : PyDict ℕ ℤ
  configured : PyDict ℕ VlanMode
  fields : PyDict Text Text
  action : Text

/-- One port of the grid against the codes. -/
def checkSlot (codes : List Text) (entry : ℕ × ℤ × VlanMode) : Except LibError (ℕ × ℤ × VlanMode) :=
  let (port, slot, rendered) := entry
  if (codes.length : ℤ) ≤ slot then .error .httpUnexpectedPage
  else do
    let code ← orRaise .indexError (PyList.get? codes slot)
    let mode ← orRaise .httpUnexpectedPage (memToMode code)
    if mode ≠ rendered then .error .httpUnexpectedPage else .ok (port, slot, mode)

/-- The target of the page's form, and the page from there on. -/
def membershipForm (T : PageTables) (html : Text) : Except LibError (Text × Text) :=
  orRaise .httpUnexpectedPage (search (memActionRe T fun action left => some (action, left)) html)

/-- `parse_fastpath_membership`. -/
def parseFastpathMembership (T : PageTables) (html : Text) : Except LibError FastpathMembership := do
  let (action, block) ← membershipForm T html
  let fields := fastpathFormFields T block
  let hiddenMem ← orRaise .httpUnexpectedPage (fields.get? "hiddenMem".toList)
  let grid ← fastpathGrid T block
  let slots ← grid.sortedItems.mapM (checkSlot (hiddenMem.splitOn ','))
  let (vlanId, vlanIds) ← fastpathVlanSelect T block
  let name ← unescape T ((fields.get? "vlan_name".toList).getD [])
  let vlanType ← unescape T ((fields.get? "vlan_type".toList).getD [])
  let taggedPorts ← fastpathIfaceList T ((fields.get? "hiddenTagged".toList).getD [])
  let untaggedPorts ← fastpathIfaceList T ((fields.get? "hiddenUnTagged".toList).getD [])
  let action ← unescape T action
  .ok {
    vlanId, vlanIds, name, vlanType, taggedPorts, untaggedPorts, hiddenMem, fields, action
    portSlots := .ofList (slots.map fun e => (e.1, e.2.1))
    configured := .ofList (slots.map fun e => (e.1, e.2.2)) }

/-- `fastpath_hidden_mem_with`. -/
def fastpathHiddenMemWith (page : FastpathMembership) (port : ℕ) (mode : VlanMode) :
    Except LibError Text := do
  let slot ← orRaise .httpUnexpectedPage (page.portSlots.get? port)
  let codes := page.hiddenMem.splitOn ','
  -- the slot was in range when the page was read
  .ok ([','].intercalate (PyList.set codes slot (modeToMem mode)))

/-! ## §5 Writing one slot -/

/-- The grid of a page. -/
def pageGrid (T : PageTables) (html : Text) : Except LibError PortGrid := do
  let (_, block) ← membershipForm T html
  fastpathGrid T block

/-- Each port has a slot of its own, none of them before the first. -/
def SlotsApart (grid : PortGrid) : Prop :=
  (∀ e ∈ grid.items, 0 ≤ e.2.1) ∧ (grid.items.map fun e => e.2.1).Nodup

instance (grid : PortGrid) : Decidable (SlotsApart grid) := inferInstanceAs (Decidable (_ ∧ _))

/-- The configured mode of a port, read off the codes. -/
def configuredIn (codes : List Text) (slots : PyDict ℕ ℤ) (port : ℕ) : Option VlanMode :=
  (slots.get? port).bind fun slot => (PyList.get? codes slot).bind memToMode

/-- A write of the port replaces one code, which belongs to no other port, and is read back as a
change of that port alone. -/
structure EditsOneCode (page : FastpathMembership) (port : ℕ) (mode : VlanMode) (slot : ℕ)
    (new : Text) : Prop where
  assigned : page.portSlots.get? port = some (slot : ℤ)
  inRange : slot < (page.hiddenMem.splitOn ',').length
  alone : ∀ q, page.portSlots.get? q = some (slot : ℤ) → q = port
  written : fastpathHiddenMemWith page port mode = .ok new
  codes : new.splitOn ',' = (page.hiddenMem.splitOn ',').set slot (modeToMem mode)
  readBack : ∀ q, configuredIn (new.splitOn ',') page.portSlots q =
    if q = port then some mode else page.configured.get? q

@[simp] theorem memToMode_modeToMem (mode : VlanMode) : memToMode (modeToMem mode) = some mode := by
  cases mode <;> decide

theorem comma_not_mem_modeToMem (mode : VlanMode) : ',' ∉ modeToMem mode := by
  cases mode <;> decide

theorem checkSlot_eq_ok {codes : List Text} {e e' : ℕ × ℤ × VlanMode}
    (h : checkSlot codes e = .ok e') :
    e' = e ∧ e.2.1 < codes.length ∧ (PyList.get? codes e.2.1).bind memToMode = some e.2.2 := by
  obtain ⟨port, slot, rendered⟩ := e
  rw [checkSlot] at h
  split_ifs at h with hlen
  obtain ⟨code, hcode, h⟩ := bind_eq_ok.mp h
  obtain ⟨mode, hmode, h⟩ := bind_eq_ok.mp h
  split_ifs at h with hne
  cases h
  rw [ne_eq, not_not] at hne
  rw [orRaise_eq_ok] at hcode hmode
  rw [hcode, Option.bind_some, hmode, hne]
  exact ⟨rfl, Int.not_le.mp hlen, rfl⟩

theorem mapM_checkSlot_eq_ok {codes : List Text} {l l' : List (ℕ × ℤ × VlanMode)}
    (h : l.mapM (checkSlot codes) = .ok l') :
    l' = l ∧ ∀ e ∈ l, e.2.1 < codes.length ∧
      (PyList.get? codes e.2.1).bind memToMode = some e.2.2 := by
  induction l generalizing l' with
  | nil =>
    cases h
    exact ⟨rfl, by simp⟩
  | cons e l ih =>
    rw [List.mapM_cons] at h
    obtain ⟨e', he, h⟩ := bind_eq_ok.mp h
    obtain ⟨rest, hrest, h⟩ := bind_eq_ok.mp h
    cases h
    obtain ⟨rfl, hslot⟩ := checkSlot_eq_ok he
    obtain ⟨rfl, hslots⟩ := ih hrest
    exact ⟨rfl, List.forall_mem_cons.mpr ⟨hslot, hslots⟩⟩

/-- What an accepted page was put together from. -/
theorem parts_of_parse {T : PageTables} {html : Text} {page : FastpathMembership}
    (h : parseFastpathMembership T html = .ok page) : ∃ action block grid slots,
      membershipForm T html = .ok (action, block) ∧ fastpathGrid T block = .ok grid ∧
      grid.sortedItems.mapM (checkSlot (page.hiddenMem.splitOn ',')) = .ok slots ∧
      fastpathVlanSelect T block = .ok (page.vlanId, page.vlanIds) ∧
      page.portSlots = .ofList (slots.map fun e => (e.1, e.2.1)) ∧
      page.configured = .ofList (slots.map fun e => (e.1, e.2.2)) := by
  obtain ⟨⟨action, block⟩, hform, h⟩ := bind_eq_ok.mp h
  obtain ⟨hiddenMem, _, h⟩ := bind_eq_ok.mp h
  obtain ⟨grid, hgrid, h⟩ := bind_eq_ok.mp h
  obtain ⟨slots, hslots, h⟩ := bind_eq_ok.mp h
  obtain ⟨⟨vlanId, vlanIds⟩, hmenu, h⟩ := bind_eq_ok.mp h
  obtain ⟨name, _, h⟩ := bind_eq_ok.mp h
  obtain ⟨vlanType, _, h⟩ := bind_eq_ok.mp h
  obtain ⟨taggedPorts, _, h⟩ := bind_eq_ok.mp h
  obtain ⟨untaggedPorts, _, h⟩ := bind_eq_ok.mp h
  obtain ⟨action', _, h⟩ := bind_eq_ok.mp h
  cases h
  exact ⟨action, block, grid, slots, hform, hgrid, hslots, hmenu, rfl, rfl⟩

/-- What an accepted page says of its grid. -/
theorem grid_of_parse {T : PageTables} {html : Text} {page : FastpathMembership}
    (h : parseFastpathMembership T html = .ok page) : ∃ grid, pageGrid T html = .ok grid ∧
      (∀ p, page.portSlots.get? p = (grid.get? p).map Prod.fst) ∧
      (∀ p, page.configured.get? p = (grid.get? p).map Prod.snd) ∧
      ∀ p e, grid.get? p = some e → e.1 < (page.hiddenMem.splitOn ',').length ∧
        (PyList.get? (page.hiddenMem.splitOn ',') e.1).bind memToMode = some e.2 := by
  obtain ⟨action, block, grid, slots, hform, hgrid, hslots, -, hportSlots, hconfigured⟩ :=
    parts_of_parse h
  obtain ⟨rfl, hcheck⟩ := mapM_checkSlot_eq_ok hslots
  refine ⟨grid, ?_, ?_, ?_, ?_⟩
  · rw [pageGrid, hform]
    exact hgrid
  · rw [hportSlots]
    exact grid.get?_ofList_sortedItems Prod.fst
  · rw [hconfigured]
    exact grid.get?_ofList_sortedItems Prod.snd
  · intro p e he
    exact hcheck (p, e) (PyDict.mem_sortedItems.mpr he)

/-- The VLAN of an option that is marked as selected and numbered. -/
def selectedVlan (T : PageTables) (raw : Text) : Option ℕ :=
  let attrs := tagAttrs T raw
  let value := (attrs.get? "value".toList).getD []
  if isDigitText value ∧ "selected".toList ∈ attrs then intOfDigits value else none

theorem addVlanOption_eq_ok {T : PageTables} {shown shown' : Option ℕ × Finset ℕ} {raw : Text}
    (h : addVlanOption T shown raw = .ok shown') :
    shown'.1 = (selectedVlan T raw).or shown.1 := by
  rw [addVlanOption] at h
  rw [selectedVlan]
  by_cases hdigits : isDigitText (((tagAttrs T raw).get? "value".toList).getD [])
  · rw [if_neg (by rw [hdigits]; exact Bool.false_ne_true)] at h
    obtain ⟨vid, hvid, h⟩ := bind_eq_ok.mp h
    rw [orRaise_eq_ok] at hvid
    by_cases hselected : "selected".toList ∈ tagAttrs T raw
    · rw [if_pos hselected] at h
      cases h
      rw [if_pos ⟨hdigits, hselected⟩, hvid, Option.some_or]
    · rw [if_neg hselected] at h
      cases h
      rw [if_neg fun h => hselected h.2, Option.none_or]
  · rw [if_pos (by rw [Bool.not_eq_true _ |>.mp hdigits]; rfl)] at h
    cases h
    rw [if_neg fun h => hdigits h.1, Option.none_or]

/-- The menu shows the last of its options that is selected and numbered. -/
theorem foldlM_addVlanOption_eq_ok {T : PageTables} {shown shown' : Option ℕ × Finset ℕ}
    {options : List Text} (h : options.foldlM (addVlanOption T) shown = .ok shown') :
    shown'.1 = (options.filterMap (selectedVlan T)).getLast?.or shown.1 := by
  induction options generalizing shown with
  | nil =>
    cases h
    rfl
  | cons raw options ih =>
    rw [List.foldlM_cons] at h
    obtain ⟨next, hnext, h⟩ := bind_eq_ok.mp h
    rw [ih h, addVlanOption_eq_ok hnext, List.filterMap_cons]
    cases selectedVlan T raw with
    | none => rw [Option.none_or]
    | some vid =>
      rw [List.getLast?_cons, Option.some_or, Option.some_or]
      cases (options.filterMap (selectedVlan T)).getLast? <;> rfl

/-- The VLAN a page shows is that of the last selected option of its `vlanId` menu. -/
theorem vlanId_of_parse {T : PageTables} {html : Text} {page : FastpathMembership}
    (h : parseFastpathMembership T html = .ok page) : ∃ action block inner,
      membershipForm T html = .ok (action, block) ∧
      search (vlanIdSelectRe T fun inner _ => some inner) block = some inner ∧
      page.vlanId = ((finditer (optionRe T done) inner).filterMap (selectedVlan T)).getLast? := by
  obtain ⟨action, block, _, _, hform, -, -, hmenu, -, -⟩ := parts_of_parse h
  obtain ⟨inner, hinner, hmenu⟩ := bind_eq_ok.mp hmenu
  obtain ⟨⟨selected, ids⟩, hoptions, hmenu⟩ := bind_eq_ok.mp hmenu
  have hvlanId : page.vlanId = selected := (congrArg Prod.fst (Except.ok.inj hmenu)).symm
  refine ⟨action, block, inner, hform, orRaise_eq_ok.mp hinner, ?_⟩
  rw [hvlanId, ← Option.or_none (o := List.getLast? _)]
  exact foldlM_addVlanOption_eq_ok hoptions

/-- The ports of the grid and their slots, as a lookup. -/
theorem slotsApart_iff {grid : PortGrid} : SlotsApart grid ↔
    (∀ p e, grid.get? p = some e → 0 ≤ e.1) ∧
      ∀ p q e f, grid.get? p = some e → grid.get? q = some f → e.1 = f.1 → p = q := by
  constructor
  · rintro ⟨hnonneg, hnodup⟩
    refine ⟨fun p e he => hnonneg (p, e) (PyDict.mem_items_iff.mpr he), ?_⟩
    intro p q e f he hf hslot
    have heq := List.inj_on_of_nodup_map hnodup (PyDict.mem_items_iff.mpr he)
      (PyDict.mem_items_iff.mpr hf) hslot
    exact congrArg Prod.fst heq
  · rintro ⟨hnonneg, hinj⟩
    refine ⟨fun e he => hnonneg e.1 e.2 (PyDict.mem_items_iff.mp he), ?_⟩
    refine (List.nodup_map_iff_inj_on grid.nodup.of_map).mpr fun e he f hf hslot => ?_
    have hport : e.1 = f.1 := hinj e.1 f.1 e.2 f.2 (PyDict.mem_items_iff.mp he)
      (PyDict.mem_items_iff.mp hf) hslot
    exact List.inj_on_of_nodup_map grid.nodup he hf hport

/-- **When a write stays with its port.**  On every page that is accepted, a write of any port of
the grid changes that port's code alone and is read back so, exactly where the grid gives each
port a slot of its own and none the one before the first. -/
theorem editsOneCode_iff {T : PageTables} {html : Text} {page : FastpathMembership}
    (h : parseFastpathMembership T html = .ok page) :
    (∀ port ∈ page.portSlots, ∀ mode, ∃ slot new, EditsOneCode page port mode slot new) ↔
      ∀ grid, pageGrid T html = .ok grid → SlotsApart grid := by
  obtain ⟨grid, hgrid, hslots, hconfigured, hcodes⟩ := grid_of_parse h
  have hgrid' : (∀ grid, pageGrid T html = .ok grid → SlotsApart grid) ↔ SlotsApart grid := by
    constructor
    · intro hall
      exact hall grid hgrid
    · rintro hapart grid' hgrid'
      cases hgrid.symm.trans hgrid'
      exact hapart
  rw [hgrid', slotsApart_iff]
  have hslot : ∀ {p : ℕ} {e : ℤ × VlanMode}, grid.get? p = some e →
      page.portSlots.get? p = some e.1 := fun he => by rw [hslots, he, Option.map_some]
  constructor
  · intro hedits
    have hassigned : ∀ p e, grid.get? p = some e → ∃ slot : ℕ, e.1 = slot ∧
        ∀ q, page.portSlots.get? q = some (slot : ℤ) → q = p := by
      intro p e he
      obtain ⟨slot, new, hedit⟩ := hedits p (PyDict.mem_iff.mpr ⟨_, hslot he⟩) .tagged
      exact ⟨slot, Option.some_injective _ ((hslot he).symm.trans hedit.assigned), hedit.alone⟩
    constructor
    · intro p e he
      obtain ⟨slot, hslot, _⟩ := hassigned p e he
      rw [hslot]
      exact Int.natCast_nonneg slot
    · intro p q e f he hf heq
      obtain ⟨slot, hslot', halone⟩ := hassigned q f hf
      exact halone p (by rw [hslot he, heq, hslot'])
  · rintro ⟨hnonneg, hinj⟩ port hport mode
    obtain ⟨slot, hassigned⟩ := PyDict.mem_iff.mp hport
    obtain ⟨e, he, rfl⟩ := Option.map_eq_some_iff.mp ((hslots port).symm.trans hassigned)
    obtain ⟨n, hn⟩ := Int.eq_ofNat_of_zero_le (hnonneg port e he)
    have hlength : n < (page.hiddenMem.splitOn ',').length := by
      have hlt := (hcodes port e he).1
      rw [hn] at hlt
      exact_mod_cast hlt
    have hsplit : ([','].intercalate ((page.hiddenMem.splitOn ',').set n (modeToMem mode))).splitOn
        ',' = (page.hiddenMem.splitOn ',').set n (modeToMem mode) := by
      refine List.splitOn_intercalate ',' (fun code hcode => ?_) ?_
      · rcases List.mem_or_eq_of_mem_set hcode with hcode | rfl
        · exact not_mem_of_mem_splitOn hcode
        · exact comma_not_mem_modeToMem mode
      · intro hnil
        rw [List.set_eq_nil_iff] at hnil
        exact List.splitOn_ne_nil ',' _ hnil
    rw [hn] at hassigned
    refine ⟨n, _, hassigned, hlength, ?_, ?_, hsplit, ?_⟩
    · intro q hq
      obtain ⟨f, hf, heq⟩ := Option.map_eq_some_iff.mp ((hslots q).symm.trans hq)
      exact hinj q port f e hf he (by rw [heq, hn])
    · rw [fastpathHiddenMemWith, hassigned, ← PyList.set_natCast hlength]
      rfl
    · intro q
      rw [configuredIn, hsplit, hconfigured]
      cases hq : grid.get? q with
      | none =>
        have hne : q ≠ port := by
          rintro rfl
          cases he.symm.trans hq
        rw [hslots, hq, if_neg hne]
        rfl
      | some f =>
        obtain ⟨m, hm⟩ := Int.eq_ofNat_of_zero_le (hnonneg q f hq)
        have hold := (hcodes q f hq).2
        rw [hm, PyList.get?_natCast] at hold
        rw [hslot hq, Option.bind_some, hm, PyList.get?_natCast]
        by_cases hqp : q = port
        · have hmn : m = n := by
            rw [hqp] at hq
            cases he.symm.trans hq
            exact_mod_cast hm.symm.trans hn
          rw [hmn, List.getElem?_set_self hlength, Option.bind_some, memToMode_modeToMem, if_pos hqp]
        · have hmn : n ≠ m := by
            rintro rfl
            exact hqp (hinj q port f e hq he (hm.trans hn.symm))
          rw [List.getElem?_set_ne hmn, hold, if_neg hqp, Option.map_some]

/-- The tables for pages of ASCII characters without references. -/
def asciiTables : PageTables where
  named _ := none
  isWord := PyRe.isWord
  sameFold := PyRe.sameFold
  lower t := t.map Char.toLower

/-- A page with two ports in the newer grid; the first port has this index. -/
def twoPortPage (index : String) : Text :=
  "<form method=\"post\" ".toList ++ "ACTION=\"vlan_port_cfg_rw.html\">".toList ++
    "<input name=\"hiddenMem\" ".toList ++ "value=\"1,1\">".toList ++
    "<select name=\"vlanId\">".toList ++ "<option value=\"4\" SELECTED>".toList ++
    "</select>".toList ++ "<td aid='port-1/0/1' ".toList ++ "src='/switch_tagged_x.png' ".toList ++
    "name='imx' togImg(this,".toList ++ index.toList ++ ",0,\"hiddenMem\")>".toList ++
    "<td aid='port-1/0/2' ".toList ++ "src='/switch_tagged_x.png' ".toList ++
    "name='imx' togImg(this,".toList ++ "2,0,\"hiddenMem\")>".toList

theorem exists_of_any {α : Type} {x : Except LibError α} {p : α → Bool}
    (h : x.toOption.any p = true) : ∃ a, x = .ok a ∧ p a = true := by
  cases x with
  | error e => cases h
  | ok a => exact ⟨a, rfl, h⟩

theorem editsOneCode_twoPorts : ∃ page,
    parseFastpathMembership asciiTables (twoPortPage "1") = .ok page ∧
      ∀ port ∈ page.portSlots, ∀ mode, ∃ slot new, EditsOneCode page port mode slot new := by
  have hparse : (parseFastpathMembership asciiTables (twoPortPage "1")).toOption.any
      (fun _ => true) = true := by decide +kernel
  have happart : (pageGrid asciiTables (twoPortPage "1")).toOption.any
      (fun grid => decide (SlotsApart grid)) = true := by decide +kernel
  obtain ⟨page, hpage, _⟩ := exists_of_any hparse
  obtain ⟨grid, hgrid, hslots⟩ := exists_of_any happart
  refine ⟨page, hpage, (editsOneCode_iff hpage).mpr fun grid' hgrid' => ?_⟩
  cases hgrid.symm.trans hgrid'
  exact of_decide_eq_true hslots

/-- Where the grid counts its first port from 0, writing port 1 writes port 2. -/
theorem not_editsOneCode_indexZero : ∃ page,
    parseFastpathMembership asciiTables (twoPortPage "0") = .ok page ∧
      page.portSlots.get? 1 = some (-1) ∧ page.configured.get? 2 = some .tagged ∧
      ∃ new, fastpathHiddenMemWith page 1 .untagged = .ok new ∧
        configuredIn (new.splitOn ',') page.portSlots 2 = some .untagged := by
  have hparse : (parseFastpathMembership asciiTables (twoPortPage "0")).toOption.any
      (fun page => decide (page.portSlots.get? 1 = some (-1) ∧
        page.configured.get? 2 = some .tagged ∧ page.hiddenMem = "1,1".toList ∧
        page.portSlots.get? 2 = some 1)) = true := by decide +kernel
  obtain ⟨page, hpage, hread⟩ := exists_of_any hparse
  obtain ⟨hslot, hmode, hmem, hslot2⟩ := of_decide_eq_true hread
  have hcodes : PyList.set (page.hiddenMem.splitOn ',') (-1) (modeToMem .untagged) =
      ["1".toList, "2".toList] := by
    rw [hmem]
    decide
  refine ⟨page, hpage, hslot, hmode, "1,2".toList, ?_, ?_⟩
  · rw [fastpathHiddenMemWith, hslot, orRaise_some]
    show Except.ok _ = _
    rw [hcodes]
    rfl
  · rw [configuredIn, hslot2]
    decide

end NetgearSwitch.Http
