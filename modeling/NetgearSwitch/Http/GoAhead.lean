import NetgearSwitch.Lib.PyDict
import NetgearSwitch.Lib.Xml
import NetgearSwitch.Errors

/-!
# GoAhead `wcd` responses

The readers of `protocols/http/parse.py` for the XML a GS728TPP answers.  Only the
`<DeviceConfiguration>` block of a response is parsed; it holds one element a section.
-/

namespace NetgearSwitch.Http

open PyText

/-! ## §1 Fields -/

/-- `_int`: the first integer in a text.  Numbers have any length here: a page is printed with
`str()`, which has the limit of `int()`. -/
def searchInt (t : Text) : Option ℤ :=
  PyRe.search (PyRe.alt
    (PyRe.lit "-" <| PyRe.many1 isDecimal fun ds _ => some (-(decimalsValue ds : ℤ)))
    (PyRe.many1 isDecimal fun ds _ => some (decimalsValue ds : ℤ))) t

/-- `_gtext`. -/
def gtext (el : Xml) (tag : String) : Text := ((el.find tag).map fun c => strip c.ownText).getD []

/-- `_goahead_port_num`: the port of `g24`. -/
def goaheadPortNum (name : Text) : Option ℤ :=
  match strip name with
  | 'g' :: ds => if isNumber ds then some (decimalsValue ds) else none
  | _ => none

/-- An integer is read as it is printed. -/
@[simp] theorem searchInt_intText (n : ℤ) : searchInt (intText n) = some n := by
  have hdigits : ∀ (k : ℕ) (f : ℕ → ℤ),
      PyRe.many1 isDecimal (fun ds _ => some (f (decimalsValue ds))) (natText k) = some (f k) := by
    intro k f
    refine PyRe.many1_all (natText_ne_nil k) (isDecimal_natText k) ?_
    rw [decimalsValue_natText]
  refine PyRe.search_here ?_
  unfold intText
  split_ifs with hneg
  · have habs : -((n.natAbs : ℕ) : ℤ) = n := by omega
    have hminus := PyRe.lit_append "-" (natText n.natAbs)
      (PyRe.many1 isDecimal fun ds _ => some (-(decimalsValue ds : ℤ)))
    rw [PyRe.alt]
    change ((PyRe.lit "-" _ ("-".toList ++ natText n.natAbs)).orElse _) = _
    rw [hminus, hdigits n.natAbs fun k => -(k : ℤ), habs]
    rfl
  · have habs : ((n.natAbs : ℕ) : ℤ) = n := by omega
    obtain ⟨d, ds, hd⟩ := List.exists_cons_of_ne_nil (natText_ne_nil n.natAbs)
    have hdigit := all_isDigit_natText n.natAbs d (by rw [hd]; exact List.mem_cons_self)
    have hno : PyRe.lit "-" (PyRe.many1 isDecimal fun ds _ => some (-(decimalsValue ds : ℤ)))
        (natText n.natAbs) = none := by
      have hne : PyRe.same '-' d = false := by
        rw [PyRe.same, beq_eq_false_iff_ne]
        rintro rfl
        cases hdigit
      rw [hd, PyRe.lit]
      show ((if PyRe.same '-' d = true then _ else none) : Option Text).bind _ = none
      rw [hne]
      rfl
    rw [PyRe.alt, hno]
    show PyRe.many1 isDecimal _ (natText n.natAbs) = some n
    rw [hdigits n.natAbs fun k => (k : ℤ), habs]

/-- The name of a port is read as the port. -/
theorem goaheadPortNum_natText (n : ℕ) : goaheadPortNum ('g' :: natText n) = some (n : ℤ) := by
  have hstrip : strip ('g' :: natText n) = 'g' :: natText n := by
    refine strip_of_not_isSpace fun c hc => ?_
    rcases List.mem_cons.mp hc with rfl | hc
    · rfl
    · exact isSpace_natText n c hc
  rw [goaheadPortNum, hstrip]
  simp [isNumber_natText]

/-- The field of the first child with the tag, where it holds one text without blanks. -/
theorem gtext_of_find {el : Xml} {tag : String} {t : Text} (h : el.find tag = some (Xml.leaf tag t))
    (ht : ∀ c ∈ t, isSpace c = false) : gtext el tag = t := by
  rw [gtext, h]
  exact strip_of_not_isSpace ht

/-! ## §2 Sections -/

def deviceConfiguration : Text := "DeviceConfiguration".toList

/-- `_goahead_data_block`. -/
def goaheadDataBlock (body : Text) : Except LibError Xml :=
  let close := Xml.endTag deviceConfiguration
  match PyRe.find (Xml.startTag deviceConfiguration []) body, PyRe.find close body with
  | some start, some stop =>
    let block := (body.take (stop + close.length)).drop start
    if PyRe.occurs "<!DOCTYPE".toList block || PyRe.occurs "<!ENTITY".toList block then
      .error .httpUnexpectedPage
    else orRaise .httpUnexpectedPage (Xml.parse block)
  | _, _ => .error .httpUnexpectedPage

/-- `_goahead_section`. -/
def goaheadSection (body : Text) (name : String) : Except LibError Xml := do
  let block ← goaheadDataBlock body
  orRaise .httpUnexpectedPage (block.find name)

/-! ## §3 VLAN membership -/

/-- An entry of a port's `JoinVLANList`. -/
structure JoinEntry where
  vlanId : ℤ
  port : ℤ
  untagged : Bool
  deriving DecidableEq

/-- The entries of one `Interface`. -/
def joinEntries (iface : Xml) : List JoinEntry :=
  match goaheadPortNum (gtext iface "interfaceName"), iface.find "JoinVLANList" with
  | some port, some joined =>
    (joined.findAll "VLANEntry").filterMap fun entry =>
      (searchInt (gtext entry "VLANID")).map fun vid =>
        ⟨vid, port, gtext entry "taggingMode" = ['1']⟩
  | _, _ => []

/-- The ports of a VLAN among the entries, tagged and untagged. -/
def portsOfVlan (entries : List JoinEntry) (vid : ℤ) : Finset ℤ × Finset ℤ :=
  let ports (untagged : Bool) := ((entries.filter fun e =>
    e.vlanId = vid && e.untagged == untagged).map JoinEntry.port).toFinset
  (ports false, ports true)

/-- `parse_goahead_port_vlan_membership`. -/
def parseGoaheadPortVlanMembership (body : Text) :
    Except LibError (PyDict ℤ (Finset ℤ × Finset ℤ)) := do
  let sec ← goaheadSection body "VLANInterfaceList"
  let entries := (sec.findAll "Interface").flatMap joinEntries
  .ok (.ofList ((PySet.sorted (entries.map JoinEntry.vlanId).toFinset).map fun vid =>
    (vid, portsOfVlan entries vid)))

/-! ## §4 What a page of sections reads as -/

/-- What stands before the data block of a response. -/
def wcdProlog : Text := "<?xml version=\"1.0\" encoding=\"UTF-8\" ?>\n<ResponseData>\n".toList

private theorem mismatch_endTag {d tag : Text} (hd : '>' ∉ d) (htag : '>' ∉ tag) (hne : tag ≠ d) :
    PyRe.mismatch PyRe.same (d ++ ['>']) (tag ++ ['>']) = true := by
  induction d generalizing tag with
  | nil =>
    obtain ⟨c, t, rfl⟩ := List.exists_cons_of_ne_nil hne
    have hc : PyRe.same '>' c = false := by
      rw [PyRe.same, beq_eq_false_iff_ne]
      rintro rfl
      exact htag List.mem_cons_self
    rw [List.nil_append, List.cons_append, PyRe.mismatch, hc]
    rfl
  | cons a d ih =>
    cases tag with
    | nil =>
      have ha : PyRe.same a '>' = false := by
        rw [PyRe.same, beq_eq_false_iff_ne]
        rintro rfl
        exact hd List.mem_cons_self
      rw [List.nil_append, List.cons_append, PyRe.mismatch, ha]
      rfl
    | cons b tag =>
      rw [List.cons_append, List.cons_append, PyRe.mismatch]
      by_cases hab : a = b
      · subst hab
        rw [ih (fun h => hd (List.mem_cons_of_mem _ h)) (fun h => htag (List.mem_cons_of_mem _ h))
          fun h => hne (by rw [h]), Bool.or_true]
      · have hsame : PyRe.same a b = false := by rwa [PyRe.same, beq_eq_false_iff_ne]
        rw [hsame]
        rfl

/-- The block is found and read as far as its texts are, whatever follows it. -/
theorem goaheadDataBlock_render {content : List Xml} (hcontent : Xml.FormedAll content)
    (htags : ∀ tag ∈ Xml.tagsAll content, '>' ∉ tag ∧ tag ≠ deviceConfiguration)
    (epilog : Text) :
    goaheadDataBlock (wcdProlog ++ (Xml.render false (.elem deviceConfiguration [] content) ++ epilog)) =
      orRaise .httpUnexpectedPage (Xml.readBack (.elem deviceConfiguration [] content)) := by
  have hname : Xml.WfName deviceConfiguration := by
    refine ⟨⟨'D', "eviceConfiguration".toList, rfl, rfl⟩, by decide⟩
  have hformed : Xml.Formed (.elem deviceConfiguration [] content) :=
    ⟨hname, ⟨List.nodup_nil, List.forall_mem_nil _⟩, hcontent⟩
  have hrender : Xml.render false (.elem deviceConfiguration [] content) =
      Xml.startTag deviceConfiguration [] ++ (Xml.renderAll false content ++
        Xml.endTag deviceConfiguration) := by rw [Xml.render]
  -- the start tag is found at the front of the block
  have hstart : PyRe.find (Xml.startTag deviceConfiguration [])
      (wcdProlog ++ (Xml.render false (.elem deviceConfiguration [] content) ++ epilog)) =
        some wcdProlog.length := by
    rw [hrender, List.append_assoc]
    exact PyRe.find_append _ (by decide) (by decide)
  -- the end tag is found after the contents, which have none
  have hclose : PyRe.find (Xml.endTag deviceConfiguration)
      (wcdProlog ++ (Xml.render false (.elem deviceConfiguration [] content) ++ epilog)) =
        some (wcdProlog ++ (Xml.startTag deviceConfiguration [] ++ Xml.renderAll false content)).length := by
    have htext : wcdProlog ++ (Xml.render false (.elem deviceConfiguration [] content) ++ epilog) =
        (wcdProlog ++ (Xml.startTag deviceConfiguration [] ++ Xml.renderAll false content)) ++
          (Xml.endTag deviceConfiguration ++ epilog) := by
      rw [hrender]
      simp only [List.append_assoc]
    rw [htext]
    refine PyRe.find_append _ (by decide) ?_
    refine PyRe.clear_append (by decide) (PyRe.clear_append (by decide) ?_)
    refine Xml.clear_renderAll false (by decide) hcontent fun tag htag => ?_
    have hmismatch := mismatch_endTag (by decide) (htags tag htag).1 (htags tag htag).2
    rw [List.cons_append, PyRe.mismatch]
    exact (Bool.or_eq_true _ _).mpr (Or.inr hmismatch)
  -- what stands between is the block
  have hblock : ((wcdProlog ++ (Xml.render false (.elem deviceConfiguration [] content) ++ epilog)).take
      ((wcdProlog ++ (Xml.startTag deviceConfiguration [] ++ Xml.renderAll false content)).length +
        (Xml.endTag deviceConfiguration).length)).drop wcdProlog.length =
          Xml.render false (.elem deviceConfiguration [] content) := by
    have htext : wcdProlog ++ (Xml.render false (.elem deviceConfiguration [] content) ++ epilog) =
        ((wcdProlog ++ (Xml.startTag deviceConfiguration [] ++ Xml.renderAll false content)) ++
          Xml.endTag deviceConfiguration) ++ epilog := by
      rw [hrender]
      simp only [List.append_assoc]
    rw [htext, ← List.length_append, List.take_left, List.append_assoc, List.drop_left, hrender,
      List.append_assoc]
  have hclear : ∀ w : Text, PyRe.occurs ('<' :: '!' :: w)
      (Xml.render false (.elem deviceConfiguration [] content)) = false := by
    intro w
    refine PyRe.occurs_of_clear (List.cons_ne_nil _ _) (Xml.clear_render false (by decide) hformed ?_)
    intro tag _
    rfl
  have hdoctype := hclear "DOCTYPE".toList
  have hentity := hclear "ENTITY".toList
  rw [goaheadDataBlock, hstart, hclose]
  dsimp only
  rw [hblock, show "<!DOCTYPE".toList = '<' :: '!' :: "DOCTYPE".toList from rfl, hdoctype,
    show "<!ENTITY".toList = '<' :: '!' :: "ENTITY".toList from rfl, hentity,
    Xml.parse_render false hformed]
  rfl

end NetgearSwitch.Http
