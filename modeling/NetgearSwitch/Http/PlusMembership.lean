import NetgearSwitch.Http.PoeRearm

/-!
# The VLAN membership page of the Plus models

`membership_hidden_mem` and `membership_form` of `protocols/http/forms.py`, `parse_membership` of
`protocols/http/parse.py` and `HttpWriter.set_vlan_membership` as it goes for a Plus model.  The
page carries one character a port, in the order of the ports; a write reads them all, changes
one, and submits them all.

§1 the characters of the ports · §2 the page · §3 the writer
-/

namespace NetgearSwitch.Http

open PyText PyRe Script

/-! ## §1 The characters of the ports -/

/-- `_WIRE`. -/
def wire : VlanMode → Char
  | .untagged => '1'
  | .tagged => '2'
  | .excluded => '3'

/-- `_WIRE_TO_MODE`. -/
def wireToMode (c : Char) : Option VlanMode :=
  if c = '1' then some .untagged
  else if c = '2' then some .tagged
  else if c = '3' then some .excluded
  else none

@[simp] theorem wireToMode_wire (mode : VlanMode) : wireToMode (wire mode) = some mode := by
  cases mode <;> decide

theorem wire_cases (mode : VlanMode) : wire mode = '1' ∨ wire mode = '2' ∨ wire mode = '3' := by
  cases mode <;> decide

/-- `range(1, n + 1)`. -/
def portNumbers (n : ℕ) : List ℤ := (List.range n).map fun i : ℕ => (i : ℤ) + 1

@[simp] theorem length_portNumbers (n : ℕ) : (portNumbers n).length = n := by
  simp [portNumbers]

@[simp] theorem mem_portNumbers {n : ℕ} {p : ℤ} : p ∈ portNumbers n ↔ 1 ≤ p ∧ p ≤ n := by
  constructor
  · intro h
    obtain ⟨i, hi, rfl⟩ := List.mem_map.mp h
    have hlt := List.mem_range.mp hi
    constructor <;> omega
  · rintro ⟨hlow, hhigh⟩
    refine List.mem_map.mpr ⟨(p - 1).toNat, List.mem_range.mpr ?_, ?_⟩ <;> omega

theorem nodup_portNumbers (n : ℕ) : (portNumbers n).Nodup :=
  List.nodup_range.map fun i j h => by
    have hij : (i : ℤ) + 1 = j + 1 := h
    omega

/-- `membership_hidden_mem`. -/
def membershipHiddenMem (states : PyDict ℤ VlanMode) (portCount : ℕ) : Text :=
  (portNumbers portCount).map fun p => wire ((states.get? p).getD .excluded)

/-- `membership_form`. -/
def plusMembershipForm (vlan : ℤ) (hiddenMem csrfHash : Text) : PyDict Text Text :=
  .ofList [("VLAN_ID".toList, intText vlan), ("hiddenMem".toList, hiddenMem),
    ("hash".toList, csrfHash)]

/-- The form that asks for the page of a VLAN. -/
def vlanIdForm (vlan : ℤ) : PyDict Text Text := .ofList [("VLAN_ID".toList, intText vlan)]

/-! ## §2 The page -/

/-- `[^>]*value="([^"]*)"`: behind the name of the field. -/
def hiddenMemValue : Rest Text :=
  many (· != '>') fun _ => lit "value=\"" <| many (· != '"') fun value => lit "\"" fun _ => some value

/-- `FIELD[^>]*value="([^"]*)"` -/
def hiddenMemRe (field : String) : Rest Text := lit field hiddenMemValue

/-- The `hiddenMem` value of a page. -/
def hiddenMemOf (html : Text) : Option Text :=
  (search (hiddenMemRe "id=\"hiddenMem\"") html).or (search (hiddenMemRe "name=\"hiddenMem\"") html)

/-- The mode of one port, by its character. -/
def codeEntry (code : ℤ × Char) : Except LibError (ℤ × VlanMode) :=
  (orRaise .httpUnexpectedPage (wireToMode code.2)).map fun mode => (code.1, mode)

/-- `parse_membership`. -/
def parseMembership (html : Text) (portCount : ℕ) : Except LibError (PyDict ℤ VlanMode) := do
  let raw ← orRaise .httpUnexpectedPage (hiddenMemOf html)
  if raw.length < portCount then .error .httpUnexpectedPage
  else
    let entries ← ((portNumbers portCount).zip raw).mapM codeEntry
    .ok (.ofList entries)

/-- The rest of the input behind its `id`. -/
def hiddenMemAttrs (hiddenMem : Text) : Text :=
  ' ' :: ("value=\"".toList ++ (hiddenMem ++ ("\" type=\"hidden\"".toList ++ ['>'])))

/-- The input up to its `id`. -/
def hiddenMemOpen : Text := "<input name=\"hiddenMem\" ".toList

/-- The `id` of the input. -/
def hiddenMemId : Text := "id=\"hiddenMem\"".toList

/-- The input both web faces write. -/
def hiddenMemInput (hiddenMem : Text) : Text :=
  hiddenMemOpen ++ (hiddenMemId ++ hiddenMemAttrs hiddenMem)

/-- What stands in a `hiddenMem` of any port count. -/
def IsWire (codes : Text) : Prop := ∀ c ∈ codes, c = '1' ∨ c = '2' ∨ c = '3'

theorem isWire_map {f : ℤ → VlanMode} (ports : List ℤ) : IsWire (ports.map fun p => wire (f p)) := by
  intro c hc
  obtain ⟨p, _, rfl⟩ := List.mem_map.mp hc
  exact wire_cases (f p)

theorem IsWire.ne {codes : Text} (h : IsWire codes) {d : Char} (hd : d ≠ '1' ∧ d ≠ '2' ∧ d ≠ '3') :
    ∀ c ∈ codes, c ≠ d := by
  intro c hc hcd
  rcases h c hc with rfl | rfl | rfl
  · exact hd.1 hcd.symm
  · exact hd.2.1 hcd.symm
  · exact hd.2.2 hcd.symm

theorem hiddenMemRe_append (field : String) (s : Text) :
    hiddenMemRe field (field.toList ++ s) = hiddenMemValue s :=
  lit_append field s hiddenMemValue

theorem startsWith_hiddenMemRe (field : String) :
    StartsWith same field.toList (hiddenMemRe field) :=
  startsWith_lit field _

theorem hiddenMemValue_attrs {codes : Text} (back : Text) (hcodes : IsWire codes) :
    hiddenMemValue (hiddenMemAttrs codes ++ back) = some codes := by
  have hquote : ∀ c ∈ codes, (c != '"') = true := fun c hc => by
    simpa using hcodes.ne (d := '"') (by decide) c hc
  have hword : "value=\"".toList = 'v' :: "alue=\"".toList := by decide
  have hhere : lit "value=\"" (many (· != '"') fun value => lit "\"" fun _ => some value)
      ("value=\"".toList ++ (codes ++ ("\" type=\"hidden\"".toList ++ '>' :: back))) =
        some codes := by
    rw [lit_append]
    exact many_span (d := '"') hquote (by decide) (lit_append "\"" _ _)
  have hclear : clear same "value=\"".toList
      ("alue=\"".toList ++ (codes ++ "\" type=\"hidden\"".toList) ++ ['>']) = true := by
    refine clear_append (clear_append (by decide) (clear_append ?_ (by decide))) (by decide)
    refine clear_of_head fun d hd => ?_
    have hne := hcodes.ne (d := 'v') (by decide) d hd
    simpa [same] using fun h => hne h.symm
  have hlater := many_eq_none (p := (· != '>')) back
    (m := fun _ => lit "value=\"" <| many (· != '"') fun value => lit "\"" fun _ => some value)
    (fun _ => startsWith_lit "value=\"" _) (by decide) hclear
  simp only [hiddenMemAttrs, hword, List.append_assoc, List.cons_append,
    List.nil_append] at hhere hlater ⊢
  exact many_last (w := [' ']) (by decide) hhere hlater

/-- The codes are read off the input, wherever it stands behind a text that names no
`hiddenMem`. -/
theorem hiddenMemOf_page {front codes : Text} (back : Text) (hcodes : IsWire codes)
    (hfront : clear same hiddenMemId front = true) :
    hiddenMemOf (front ++ (hiddenMemInput codes ++ back)) = some codes := by
  have hopen : clear same hiddenMemId hiddenMemOpen = true := by decide
  have hsearch : search (hiddenMemRe "id=\"hiddenMem\"")
      (front ++ (hiddenMemInput codes ++ back)) = some codes := by
    rw [search_clear _ (startsWith_hiddenMemRe "id=\"hiddenMem\"") hfront]
    simp only [hiddenMemInput, List.append_assoc]
    rw [search_clear _ (startsWith_hiddenMemRe "id=\"hiddenMem\"") hopen]
    exact search_here ((hiddenMemRe_append _ _).trans (hiddenMemValue_attrs back hcodes))
  rw [hiddenMemOf, hsearch, Option.some_or]

/-- The input of a token, up to its name and behind it. -/
def hashOpen : Text := "<input type=\"hidden\" ".toList

def hashAttrs (token : Text) : Text := ' ' :: ("value=".toList ++ ('"' :: (token ++ ['"', '>'])))

/-- The input of a token. -/
def hashInput (token : Text) : Text := hashOpen ++ ("name=\"hash\"".toList ++ hashAttrs token)

/-- A token that stands in its input as it is. -/
structure IsToken (token : Text) : Prop where
  noQuote : ∀ c ∈ token, quoteMark c = false
  noValue : clear same "value=".toList token = true

private theorem quoted_token {token : Text} (back : Text) (h : IsToken token) :
    quoted ('"' :: (token ++ '"' :: ('>' :: back))) = some token := by
  have hrun : many (fun c => !quoteMark c) (fun value => one quoteMark fun _ _ => some value)
      (token ++ '"' :: ('>' :: back)) = some token :=
    many_span (fun c hc => by simp [h.noQuote c hc]) (by decide) rfl
  exact hrun

/-- The token is read off the first input that is called `hash`. -/
theorem parseCsrfHash_page {front token : Text} (back : Text) (h : IsToken token)
    (hfront : clear same "name=".toList front = true) :
    parseCsrfHash (front ++ (hashInput token ++ back)) = some token := by
  have hword : "value=".toList = 'v' :: "alue=".toList := by decide
  have hopen : clear same "name=".toList hashOpen = true := by decide
  have hhere : lit "value=" quoted ("value=".toList ++ ('"' :: (token ++ '"' :: ('>' :: back)))) =
      some token := by
    rw [lit_append]
    exact quoted_token back h
  have hclear : clear same "value=".toList
      ("alue=".toList ++ ('"' :: (token ++ ['"'])) ++ ['>']) = true :=
    clear_append (clear_append (by decide) (clear_append (t := ['"']) (by decide)
      (clear_append h.noValue (by decide)))) (by decide)
  have hlater := many_eq_none (p := fun c => decide (c ≠ '>')) back
    (m := fun _ => lit "value=" quoted) (fun _ => startsWith_lit "value=" _) (by decide) hclear
  have hattrs : (many (fun c => decide (c ≠ '>')) fun _ => lit "value=" quoted)
      (hashAttrs token ++ back) = some token := by
    simp only [hashAttrs, hword, List.append_assoc, List.cons_append, List.nil_append]
      at hhere hlater ⊢
    exact many_last (w := [' ']) (by decide) hhere hlater
  have hstarts : StartsWith same "name=".toList (lit "name=" <| one quoteMark fun _ => lit "hash" <|
      one quoteMark fun _ => many (fun c => decide (c ≠ '>')) fun _ => lit "value=" quoted) :=
    startsWith_lit "name=" _
  rw [parseCsrfHash, inputValue, search_clear _ hstarts hfront]
  simp only [hashInput, List.append_assoc]
  rw [search_clear _ hstarts hopen]
  refine search_here ?_
  have hname : "name=\"hash\"".toList = "name=".toList ++ ('"' :: ("hash".toList ++ ['"'])) := by
    decide
  rw [hname]
  simp only [List.append_assoc, List.cons_append, List.nil_append]
  rw [lit_append, one, if_pos (by decide), lit_append, one, if_pos (by decide)]
  exact hattrs

/-- No token is read off a page that nowhere says `hash`. -/
theorem parseCsrfHash_eq_none {html : Text} (h : clear same "hash".toList html = true) :
    parseCsrfHash html = none := by
  rw [Option.eq_none_iff_forall_ne_some]
  intro token htoken
  have hsome : (parseCsrfHash html).isSome = true := by rw [htoken]; rfl
  obtain ⟨a, b, rfl, hb⟩ := isSome_search.mp hsome
  obtain ⟨r, rfl, hr⟩ := isSome_lit.mp hb
  obtain ⟨c, r', rfl, _, hr'⟩ := isSome_one.mp hr
  obtain ⟨r'', rfl, _⟩ := isSome_lit.mp hr'
  have hfound : (search (lit "hash" fun _ => some ())
      (a ++ ("name=".toList ++ c :: ("hash".toList ++ r'')))).isSome = true :=
    isSome_search.mpr ⟨a ++ ("name=".toList ++ [c]), "hash".toList ++ r'', by simp only
      [List.append_assoc, List.cons_append, List.nil_append], isSome_lit.mpr ⟨r'', rfl, rfl⟩⟩
  have hskip := search_clear [] (startsWith_lit "hash" fun _ => some ()) h
  rw [List.append_nil] at hskip
  rw [hskip] at hfound
  cases hfound

/-- A page with a character for every port is read port by port. -/
theorem parseMembership_of_codes {html : Text} {n : ℕ} {f : ℤ → VlanMode}
    (h : hiddenMemOf html = some ((portNumbers n).map fun p => wire (f p))) :
    parseMembership html n = .ok (.ofList ((portNumbers n).map fun p => (p, f p))) := by
  have hentries : ∀ ports : List ℤ, (ports.zip (ports.map fun p => wire (f p))).mapM codeEntry =
      .ok (ports.map fun p => (p, f p)) := by
    intro ports
    induction ports with
    | nil => rfl
    | cons p ports ih =>
      have hhead : codeEntry (p, wire (f p)) = .ok (p, f p) := by
        rw [codeEntry, wireToMode_wire]
        rfl
      rw [List.map_cons, List.zip_cons_cons, List.mapM_cons, hhead]
      show (List.mapM codeEntry _).bind _ = _
      rw [ih]
      rfl
  rw [parseMembership, h, orRaise_some]
  show (if _ then _ else _) = _
  rw [if_neg (by simp)]
  show (List.mapM codeEntry _).bind _ = _
  rw [hentries]
  rfl

/-- What is read of a page with the characters of `states` is `states`. -/
theorem parseMembership_hiddenMem {front : Text} (back : Text) {states : PyDict ℤ VlanMode} {n : ℕ}
    (hfront : clear same hiddenMemId front = true)
    (hstates : ∀ p, p ∈ states ↔ 1 ≤ p ∧ p ≤ n) :
    ∃ read, parseMembership (front ++ (hiddenMemInput (membershipHiddenMem states n) ++ back)) n =
        .ok read ∧ ∀ p, read.get? p = states.get? p := by
  refine ⟨_, parseMembership_of_codes
    (hiddenMemOf_page back (isWire_map (portNumbers n)) hfront), fun p => ?_⟩
  rw [PyDict.get?_ofList_map (nodup_portNumbers n)]
  by_cases hp : p ∈ states
  · obtain ⟨mode, hmode⟩ := PyDict.mem_iff.mp hp
    rw [if_pos (mem_portNumbers.mpr ((hstates p).mp hp)), hmode, Option.getD_some]
  · rw [if_neg fun h => hp ((hstates p).mpr (mem_portNumbers.mp h)), PyDict.not_mem_iff.mp hp]

/-! ## §3 The writer -/

/-- `_csrf`. -/
def csrf (html : Text) : Except LibError Text := orRaise .httpUnexpectedPage (parseCsrfHash html)

/-- The writer of a model whose membership page is that of the Plus models. -/
structure PlusWriter where
  modelKey : ModelKey
  spec : HttpModelSpec
  isSpec : httpSpec modelKey = some spec
  isPlus : spec.isFastpathDialect = false ∧ spec.isXmlApiDialect = false
  protectedPorts : Finset ℤ := ∅

namespace PlusWriter

variable (w : PlusWriter)

def portCount : ℕ := (getModel w.modelKey).portCount

/-- `_guard`. -/
def guard (port : ℤ) (force : Bool) : HttpScript Unit :=
  ensure (¬ (port ∈ w.protectedPorts ∧ ¬ force)) .protectedPort

/-- `set_vlan_membership`. -/
def setVlanMembership (vlan port : ℤ) (mode : VlanMode) (force : Bool) : HttpScript Unit := do
  w.guard port force
  let path ← done (orRaise .unsupportedCapability w.spec.vlanMembershipPath)
  let html ← sessionCall (.postForm path (vlanIdForm vlan))
  let read ← done (parseMembership html w.portCount)
  let token ← done (csrf html)
  let _ ← sessionCall (.postForm path
    (plusMembershipForm vlan (membershipHiddenMem (read.set port mode) w.portCount) token))
  let verify ← sessionCall (.postForm path (vlanIdForm vlan))
  let after ← done (parseMembership verify w.portCount)
  ensure (after.get? port = some mode) .writeVerification

variable {w} {δ : Type} {m : Machine δ Call (Except LibError Text)} {d d' : δ}

/-- A write whose three posts are answered ends by what the last page says. -/
theorem ends_setVlanMembership {v p : ℤ} {mode : VlanMode} {force : Bool} {path html html' verify
    token : Text} {read after : PyDict ℤ VlanMode}
    (hguard : ¬ (p ∈ w.protectedPorts ∧ ¬ force)) (hpath : w.spec.vlanMembershipPath = some path)
    (hask : m d (.postForm path (vlanIdForm v)) = (d, .ok html))
    (hread : parseMembership html w.portCount = .ok read) (htoken : csrf html = .ok token)
    (hwrite : m d (.postForm path (plusMembershipForm v
      (membershipHiddenMem (read.set p mode) w.portCount) token)) = (d', .ok html'))
    (hverify : m d' (.postForm path (vlanIdForm v)) = (d', .ok verify))
    (hafter : parseMembership verify w.portCount = .ok after) :
    Ends m (w.setVlanMembership v p mode force) d
      (if after.get? p = some mode then .ok () else .error .writeVerification) d' := by
  have hpost : ∀ {e e' : δ} {data : PyDict Text Text} {page : Text},
      m e (.postForm path data) = (e', .ok page) →
      Ends m (sessionCall (.postForm path data)) e (.ok page) e' := fun h =>
    (ends_call h).bind (ends_done _)
  have hdone : ∀ {α : Type} {e : δ} {r : Except LibError α} {a : α}, r = .ok a →
      Ends m (done r : HttpScript α) e (.ok a) e := fun h => h ▸ ends_done _
  have hpath' : orRaise .unsupportedCapability w.spec.vlanMembershipPath = .ok path := by
    rw [hpath]
    rfl
  have hlast : Ends m (ensure (after.get? p = some mode) .writeVerification : HttpScript Unit) d'
      (if after.get? p = some mode then .ok () else .error .writeVerification) d' := by
    by_cases hmode : after.get? p = some mode
    · rw [if_pos hmode]
      exact ends_ensure hmode _
    · rw [if_neg hmode, ensure_of_neg hmode]
      exact ends_done _
  exact (ends_ensure hguard _).bind <| (hdone hpath').bind <| (hpost hask).bind <|
    (hdone hread).bind <| (hdone htoken).bind <| (hpost hwrite).bind <| (hpost hverify).bind <|
    (hdone hafter).bind hlast

/-- A write to a page without a token does not end well. -/
theorem not_ends_setVlanMembership {v p : ℤ} {mode : VlanMode} {force : Bool} {path html : Text}
    {e : LibError} {u : Unit} (hpath : w.spec.vlanMembershipPath = some path)
    (hask : m d (.postForm path (vlanIdForm v)) = (d, .ok html)) (htoken : csrf html = .error e) :
    ¬ Ends m (w.setVlanMembership v p mode force) d (.ok u) d' := by
  intro hend
  obtain ⟨_, d₁, hguard, hend⟩ := hend.exists_of_bind
  obtain ⟨_, rfl⟩ := hguard.of_ensure
  rw [hpath] at hend
  obtain ⟨path', d₂, hdone, hend⟩ := hend.exists_of_bind
  obtain ⟨hsame, rfl⟩ := hdone.of_done
  obtain rfl : path = path' := Except.ok.inj hsame
  have hpost : Ends m (sessionCall (.postForm path (vlanIdForm v))) d (.ok html) d :=
    (ends_call hask).bind (ends_done _)
  have hrest := hpost.of_bind hend
  obtain ⟨_, d₃, hread, hrest⟩ := hrest.exists_of_bind
  obtain ⟨_, rfl⟩ := hread.of_done
  obtain ⟨token, d₄, hscraped, _⟩ := hrest.exists_of_bind
  have hok := hscraped.of_done.1
  rw [htoken] at hok
  cases hok

/-- A write whose first page is not answered does not end well. -/
theorem not_ends_setVlanMembership_of_error {v p : ℤ} {mode : VlanMode} {force : Bool} {path : Text}
    {e : LibError} {u : Unit} (hpath : w.spec.vlanMembershipPath = some path)
    (hask : m d (.postForm path (vlanIdForm v)) = (d, .error e)) :
    ¬ Ends m (w.setVlanMembership v p mode force) d (.ok u) d' := by
  intro hend
  obtain ⟨_, d₁, hguard, hend⟩ := hend.exists_of_bind
  obtain ⟨_, rfl⟩ := hguard.of_ensure
  rw [hpath] at hend
  obtain ⟨path', d₂, hdone, hend⟩ := hend.exists_of_bind
  obtain ⟨hsame, rfl⟩ := hdone.of_done
  obtain rfl : path = path' := Except.ok.inj hsame
  have hpost : Ends m (sessionCall (.postForm path (vlanIdForm v))) d (.error e) d :=
    (ends_call hask).bind (ends_done _)
  obtain ⟨html, d₃, hanswered, _⟩ := hend.exists_of_bind
  cases (hpost.unique hanswered).1

end PlusWriter

end NetgearSwitch.Http
