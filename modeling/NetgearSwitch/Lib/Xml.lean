import Mathlib.Data.List.TakeDrop
import NetgearSwitch.Lib.PyLines
import NetgearSwitch.Lib.PyRe

/-!
# XML documents

Elements with attributes, texts and child elements: the text they are written as, and a reader
for such texts that follows the XML rules on names, entities, line ends and legal characters.
Comments, processing instructions, CDATA sections and character references are left out.

What is read back of a document that was written is the document with its line ends normalised,
and nothing where it has a character that no document may have.

§1 writing · §2 reading · §3 reading what was written · §4 words that are not in a document
-/

open PyText

/-- A text, or an element with its attributes and contents. -/
inductive Xml
  | text (t : Text)
  | elem (tag : Text) (attrs : List (Text × Text)) (content : List Xml)

namespace Xml

/-! ## §1 Writing -/

/-- A character as it is written; `quotes` asks for the entities of the two quotes too. -/
def escapeChar (quotes : Bool) (c : Char) : Text :=
  if c = '&' then "&amp;".toList
  else if c = '<' then "&lt;".toList
  else if c = '>' then "&gt;".toList
  else if quotes = true ∧ c = '"' then "&quot;".toList
  else if quotes = true ∧ c = '\'' then "&apos;".toList
  else [c]

/-- `xml.sax.saxutils.escape`. -/
def escape (quotes : Bool) (t : Text) : Text := t.flatMap (escapeChar quotes)

/-- The attributes of a start tag. -/
def attrsText (attrs : List (Text × Text)) : Text :=
  attrs.flatMap fun (k, v) => ' ' :: k ++ '=' :: '"' :: v ++ ['"']

/-- `<tag k="v">`. -/
def startTag (tag : Text) (attrs : List (Text × Text)) : Text :=
  '<' :: tag ++ attrsText attrs ++ ['>']

/-- `</tag>`. -/
def endTag (tag : Text) : Text := '<' :: '/' :: tag ++ ['>']

mutual
/-- The text a node is written as. -/
def render (quotes : Bool) : Xml → Text
  | .text t => escape quotes t
  | .elem tag attrs content => startTag tag attrs ++ (renderAll quotes content ++ endTag tag)
def renderAll (quotes : Bool) : List Xml → Text
  | [] => []
  | x :: xs => render quotes x ++ renderAll quotes xs
end

/-- `<tag>t</tag>`. -/
def leaf (tag : String) (t : Text) : Xml := .elem tag.toList [] [.text t]

/-- `<tag>…</tag>`. -/
def node (tag : String) (content : List Xml) : Xml := .elem tag.toList [] content

/-- `<tag>t</tag>`, of a text that may be empty. -/
def field (tag : String) (t : Text) : Xml := node tag (if t = [] then [] else [.text t])

/-- `<tag>t</tag>`, of a text that stands for itself. -/
def tagged (tag : String) (t : Text) : Text := startTag tag.toList [] ++ (t ++ endTag tag.toList)

theorem render_node (quotes : Bool) (tag : String) (content : List Xml) :
    render quotes (node tag content) = tagged tag (renderAll quotes content) := by
  rw [node, render, tagged]

theorem render_field (quotes : Bool) (tag : String) (t : Text) :
    render quotes (field tag t) = tagged tag (escape quotes t) := by
  rw [field, render_node]
  split_ifs with hnil
  · rw [hnil]
    rfl
  · rw [renderAll, renderAll, render, List.append_nil]

/-- A text without the three characters is written as it stands. -/
theorem escape_eq_self {t : Text} (h : ∀ c ∈ t, c ≠ '&' ∧ c ≠ '<' ∧ c ≠ '>') :
    escape false t = t := by
  induction t with
  | nil => rfl
  | cons c t ih =>
    obtain ⟨hamp, hlt, hgt⟩ := h c List.mem_cons_self
    have hchar : escapeChar false c = [c] := by
      rw [escapeChar, if_neg hamp, if_neg hlt, if_neg hgt, if_neg (fun h => absurd h.1 (by decide)),
        if_neg (fun h => absurd h.1 (by decide))]
    have hrest := ih fun d hd => h d (List.mem_cons_of_mem _ hd)
    rw [escape, List.flatMap_cons, hchar, ← escape, hrest]
    rfl

/-! ## §2 Reading -/

/-- White space between the parts of a tag. -/
def isXmlSpace (c : Char) : Bool := c = ' ' || c = '\t' || c = '\n' || c = '\r'

/-- A character of an ASCII name. -/
def isNameChar (c : Char) : Bool := c.isAlphanum || c = '_' || c = '-' || c = '.' || c = ':'

/-- A character a name can start with. -/
def isNameStart (c : Char) : Bool := c.isAlpha || c = '_' || c = ':'

/-- A character a document may have. -/
def isXmlChar (c : Char) : Bool :=
  let n := c.toNat
  n = 9 || n = 10 || n = 13 || (32 ≤ n && n ≠ 0xFFFE && n ≠ 0xFFFF)

/-- The name at the front of a text. -/
def takeName : Text → Option (Text × Text)
  | [] => none
  | c :: s => if isNameStart c then some ((c :: s).span isNameChar) else none

/-- The predefined entities. -/
def entities : List (Text × Char) :=
  [("&amp;".toList, '&'), ("&lt;".toList, '<'), ("&gt;".toList, '>'), ("&quot;".toList, '"'),
    ("&apos;".toList, '\'')]

/-- Characters of a text, entities resolved and line ends normalised; `fuel` bounds the characters
read. -/
def decodeLoop : ℕ → Text → Option Text
  | _, [] => some []
  | 0, _ :: _ => none
  | fuel + 1, c :: s =>
    if c = '&' then
      (entities.findSome? fun (name, d) => (after? name (c :: s)).map (d, ·)).bind
        fun (d, rest) => (decodeLoop fuel rest).map (d :: ·)
    else if c = '\r' then
      (decodeLoop fuel (if s.head? = some '\n' then s.tail else s)).map ('\n' :: ·)
    else if isXmlChar c then (decodeLoop fuel s).map (c :: ·)
    else none

/-- The characters a run of character data stands for. -/
def decode (t : Text) : Option Text := decodeLoop t.length t

/-- A quoted value; its white space is read as blanks. -/
def takeValue (s : Text) : Option (Text × Text) :=
  match s.dropWhile isXmlSpace with
  | [] => none
  | q :: r =>
    if q = '"' || q = '\'' then
      let raw := r.takeWhile (· ≠ q)
      if '<' ∈ raw then none
      else match r.dropWhile (· ≠ q) with
        | [] => none
        | _ :: r => (decode raw).map fun v => (v.map fun c => if isXmlSpace c then ' ' else c, r)
    else none

/-- One attribute. -/
def takeAttr (s : Text) : Option ((Text × Text) × Text) :=
  (takeName s).bind fun (name, r) =>
    match r.dropWhile isXmlSpace with
    | '=' :: r => (takeValue r).map fun (v, r) => ((name, v), r)
    | _ => none

/-- The attributes of a start tag and what follows it: whether the element is empty, and the text
left over; `fuel` bounds the attributes. -/
def takeAttrs : ℕ → Text → Option (List (Text × Text) × Bool × Text)
  | 0, _ => none
  | fuel + 1, s =>
    match s.dropWhile isXmlSpace with
    | '>' :: r => some ([], false, r)
    | '/' :: '>' :: r => some ([], true, r)
    | r =>
      -- an attribute stands after white space
      if (s.head?.map isXmlSpace).getD false then do
        let (attr, r) ← takeAttr r
        let (attrs, closed, r) ← takeAttrs fuel r
        if attr.1 ∈ attrs.map Prod.fst then none else some (attr :: attrs, closed, r)
      else none

/-- Contents up to an end tag or the end of the text, and the text left over; `fuel` bounds the
nodes. -/
def takeContent : ℕ → Text → Option (List Xml × Text)
  | 0, _ => none
  | _ + 1, [] => some ([], [])
  | fuel + 1, c :: s =>
    if c = '<' then
      if s.head? = some '/' then some ([], c :: s)
      else match takeName s with
        | none => none
        | some (tag, r) =>
          match takeAttrs (r.length + 1) r with
          | none => none
          | some (attrs, true, r) =>
            (takeContent fuel r).map fun (rest, r) => (.elem tag attrs [] :: rest, r)
          | some (attrs, false, r) =>
            match takeContent fuel r with
            | none => none
            | some (content, r) =>
              match (after? ('<' :: '/' :: tag) r).map (·.dropWhile isXmlSpace) with
              | some ('>' :: r) =>
                (takeContent fuel r).map fun (rest, r) => (.elem tag attrs content :: rest, r)
              | _ => none
    else match decode ((c :: s).takeWhile (· ≠ '<')) with
      | none => none
      | some t =>
        (takeContent fuel ((c :: s).dropWhile (· ≠ '<'))).map fun (rest, r) => (.text t :: rest, r)

/-- The root element of a document, `none` where the text is no document. -/
def parse (s : Text) : Option Xml :=
  match takeContent (s.length + 1) s with
  | some ([.elem tag attrs content], []) => some (.elem tag attrs content)
  | _ => none

example : parse "<a k=\"v\"><b>1 &lt; 2</b>\n<c/></a>".toList =
    some (.elem "a".toList [("k".toList, "v".toList)]
      [leaf "b" "1 < 2".toList, .text ['\n'], node "c" []]) := by rfl

/-- What follows the XML declaration of a text, where it has one. -/
def afterDeclaration (s : Text) : Text :=
  match after? "<?xml".toList s with
  | some (c :: r) =>
    if isXmlSpace c then ((PyRe.find "?>".toList r).map fun n => r.drop (n + 2)).getD s else s
  | _ => s

/-- White space, which may stand around a root element. -/
def isBlank : Xml → Bool
  | .text t => t.all isXmlSpace
  | .elem _ _ _ => false

/-- The root element of a document that may have a declaration and white space around its root. -/
def parseDocument (s : Text) : Option Xml :=
  let s := afterDeclaration s
  match takeContent (s.length + 1) s with
  | some (nodes, []) =>
    match nodes.filter fun x => !isBlank x with
    | [.elem tag attrs content] => some (.elem tag attrs content)
    | _ => none
  | _ => none

/-! ### The parts of an element -/

/-- The contents of an element. -/
def contents : Xml → List Xml
  | .text _ => []
  | .elem _ _ content => content

/-- Is it an element with this tag? -/
def hasTag (tag : String) : Xml → Bool
  | .text _ => false
  | .elem tag' _ _ => tag' = tag.toList

/-- `el.findall(tag)`. -/
def findAll (tag : String) (x : Xml) : List Xml := x.contents.filter (hasTag tag)

/-- `el.find(tag)`. -/
def find (tag : String) (x : Xml) : Option Xml := x.contents.find? (hasTag tag)

/-- `el.text or ""`. -/
def ownText (x : Xml) : Text :=
  match x.contents with
  | .text t :: _ => t
  | _ => []

/-! ## §3 Reading what was written -/

/-- A name that can be written. -/
def WfName (name : Text) : Prop :=
  (∃ c s, name = c :: s ∧ isNameStart c = true) ∧ ∀ c ∈ name, isNameChar c = true

/-- Attributes that read back as they are written. -/
def WfAttrs (attrs : List (Text × Text)) : Prop :=
  (attrs.map Prod.fst).Nodup ∧ ∀ e ∈ attrs, WfName e.1 ∧
    ∀ c ∈ e.2, isXmlChar c = true ∧ c ≠ '"' ∧ c ≠ '<' ∧ c ≠ '&' ∧ (isXmlSpace c = true → c = ' ')

/-- A text that reads back as it is written. -/
def WfText (t : Text) : Prop := t ≠ [] ∧ ∀ c ∈ t, isXmlChar c = true ∧ c ≠ '\r'

/-- Does a text come first? -/
def startsWithText : List Xml → Prop
  | .text _ :: _ => True
  | _ => False

mutual
/-- A node that reads back as it is written: no two texts side by side. -/
def Wf : Xml → Prop
  | .text t => WfText t
  | .elem tag attrs content => WfName tag ∧ WfAttrs attrs ∧ WfAll content
def WfAll : List Xml → Prop
  | [] => True
  | x :: xs => Wf x ∧ WfAll xs ∧ (startsWithText [x] → ¬ startsWithText xs)
end

mutual
/-- A node that can be written: like `Wf`, its texts of any characters. -/
def Formed : Xml → Prop
  | .text t => t ≠ []
  | .elem tag attrs content => WfName tag ∧ WfAttrs attrs ∧ FormedAll content
def FormedAll : List Xml → Prop
  | [] => True
  | x :: xs => Formed x ∧ FormedAll xs ∧ (startsWithText [x] → ¬ startsWithText xs)
end

/-- Line ends as a reader normalises them. -/
def normalLines : Text → Text
  | [] => []
  | '\r' :: '\n' :: t => '\n' :: normalLines t
  | '\r' :: t => '\n' :: normalLines t
  | c :: t => c :: normalLines t

/-- A text as it is read back: not at all with a character that no document may have. -/
def readText (t : Text) : Option Text :=
  if t.all isXmlChar then some (normalLines t) else none

mutual
/-- A node as it is read back. -/
def readBack : Xml → Option Xml
  | .text t => (readText t).map .text
  | .elem tag attrs content => (readBackAll content).map (.elem tag attrs)
def readBackAll : List Xml → Option (List Xml)
  | [] => some []
  | x :: xs => (readBack x).bind fun y => (readBackAll xs).map (y :: ·)
end

mutual
/-- The nodes of a tree. -/
def size : Xml → ℕ
  | .text _ => 1
  | .elem _ _ content => 1 + sizeAll content
def sizeAll : List Xml → ℕ
  | [] => 0
  | x :: xs => size x + sizeAll xs
end

theorem wfName_iff {name : Text} :
    WfName name ↔ (name.head?.any isNameStart && name.all isNameChar) = true := by
  rw [Bool.and_eq_true, List.all_eq_true, WfName]
  refine and_congr_left fun _ => ?_
  cases name with
  | nil => simp
  | cons c s => simp

theorem wf_leaf {tag : String} {t : Text} (htag : WfName tag.toList) (ht : WfText t) :
    Wf (leaf tag t) :=
  ⟨htag, ⟨List.nodup_nil, List.forall_mem_nil _⟩, ht, trivial, fun _ h => h⟩

/-- Elements side by side read back if each does. -/
theorem wfAll_of_elems {xs : List Xml} (h : ∀ x ∈ xs, Wf x ∧ ¬ startsWithText [x]) : WfAll xs := by
  induction xs with
  | nil => trivial
  | cons x xs ih =>
    obtain ⟨hx, htext⟩ := h x List.mem_cons_self
    exact ⟨hx, ih fun y hy => h y (List.mem_cons_of_mem _ hy), fun hx => absurd hx htext⟩

theorem wf_node {tag : String} {content : List Xml} (htag : WfName tag.toList)
    (hcontent : ∀ x ∈ content, Wf x ∧ ¬ startsWithText [x]) : Wf (node tag content) :=
  ⟨htag, ⟨List.nodup_nil, List.forall_mem_nil _⟩, wfAll_of_elems hcontent⟩

theorem wfText_of_not_isSpace {t : Text} (hne : t ≠ [])
    (h : ∀ c ∈ t, isXmlChar c = true ∧ isSpace c = false) : WfText t := by
  refine ⟨hne, fun c hc => ⟨(h c hc).1, ?_⟩⟩
  rintro rfl
  exact absurd (h '\r' hc).2 (by decide)

mutual
theorem Wf.formed : ∀ {x : Xml}, Wf x → Formed x
  | .text _, h => h.1
  | .elem _ _ _, ⟨htag, hattrs, hcontent⟩ => ⟨htag, hattrs, hcontent.formed⟩
theorem WfAll.formed : ∀ {xs : List Xml}, WfAll xs → FormedAll xs
  | [], _ => trivial
  | _ :: _, ⟨hx, hxs, hnext⟩ => ⟨hx.formed, hxs.formed, hnext⟩
end

theorem formedAll_of_elems {xs : List Xml} (h : ∀ x ∈ xs, Formed x ∧ ¬ startsWithText [x]) :
    FormedAll xs := by
  induction xs with
  | nil => trivial
  | cons x xs ih =>
    obtain ⟨hx, htext⟩ := h x List.mem_cons_self
    exact ⟨hx, ih fun y hy => h y (List.mem_cons_of_mem _ hy), fun hx => absurd hx htext⟩

theorem formed_node {tag : String} {content : List Xml} (htag : WfName tag.toList)
    (hcontent : ∀ x ∈ content, Formed x ∧ ¬ startsWithText [x]) : Formed (node tag content) :=
  ⟨htag, ⟨List.nodup_nil, List.forall_mem_nil _⟩, formedAll_of_elems hcontent⟩

theorem formed_field {tag : String} (htag : WfName tag.toList) (t : Text) : Formed (field tag t) := by
  refine ⟨htag, ⟨List.nodup_nil, List.forall_mem_nil _⟩, ?_⟩
  split_ifs with hnil
  · trivial
  · exact ⟨hnil, trivial, fun _ h => h⟩

/-! ### Texts -/

theorem readText_eq_some {t u : Text} :
    readText t = some u ↔ (∀ c ∈ t, isXmlChar c = true) ∧ normalLines t = u := by
  rw [readText, Option.ite_none_right_eq_some, List.all_eq_true, Option.some.injEq]

theorem cr_not_mem_normalLines (t : Text) : '\r' ∉ normalLines t := by
  fun_induction normalLines t with
  | case1 => exact List.not_mem_nil
  | case2 t ih | case3 t _ ih =>
    rintro (_ | ⟨_, h⟩)
    exact ih h
  | case4 c t _ hc ih =>
    rintro (_ | ⟨_, h⟩)
    · exact hc rfl
    · exact ih h

theorem normalLines_of_not_mem {t : Text} (h : '\r' ∉ t) : normalLines t = t := by
  fun_induction normalLines t with
  | case1 => rfl
  | case2 t ih | case3 t _ ih => exact absurd List.mem_cons_self h
  | case4 c t _ _ ih => rw [ih fun hmem => h (List.mem_cons_of_mem _ hmem)]

/-- A text is read back as it is exactly where it has only legal characters, and no carriage
return. -/
theorem readText_eq_self {t : Text} :
    readText t = some t ↔ ∀ c ∈ t, isXmlChar c = true ∧ c ≠ '\r' := by
  rw [readText_eq_some]
  constructor
  · rintro ⟨hlegal, hlines⟩ c hc
    refine ⟨hlegal c hc, ?_⟩
    rintro rfl
    rw [← hlines] at hc
    exact cr_not_mem_normalLines t hc
  · intro h
    exact ⟨fun c hc => (h c hc).1, normalLines_of_not_mem fun hc => (h '\r' hc).2 rfl⟩

private theorem readText_cons {c : Char} (hc : c ≠ '\r') (t : Text) :
    readText (c :: t) = if isXmlChar c then (readText t).map (c :: ·) else none := by
  have hlines : normalLines (c :: t) = c :: normalLines t :=
    normalLines.eq_4 c t (fun _ h _ => hc h) hc
  rw [readText, readText, List.all_cons, hlines]
  by_cases hlegal : isXmlChar c = true
  · rw [hlegal, Bool.true_and, if_pos rfl]
    split_ifs <;> rfl
  · rw [Bool.not_eq_true] at hlegal
    rw [hlegal]
    rfl

theorem lt_not_mem_escape (quotes : Bool) (t : Text) : '<' ∉ escape quotes t := by
  intro h
  obtain ⟨c, _, hc⟩ := List.mem_flatMap.mp h
  unfold escapeChar at hc
  split_ifs at hc with h1 h2 h3 h4 h5
  · exact absurd hc (by decide)
  · exact absurd hc (by decide)
  · exact absurd hc (by decide)
  · exact absurd hc (by decide)
  · exact absurd hc (by decide)
  · exact h2 (List.mem_singleton.mp hc).symm

theorem escape_cons (quotes : Bool) (c : Char) (t : Text) :
    escape quotes (c :: t) = escapeChar quotes c ++ escape quotes t := List.flatMap_cons

theorem escapeChar_ne_nil (quotes : Bool) (c : Char) : escapeChar quotes c ≠ [] := by
  unfold escapeChar
  split_ifs <;> exact List.cons_ne_nil _ _

theorem escape_ne_nil {quotes : Bool} {t : Text} (h : t ≠ []) : escape quotes t ≠ [] := by
  obtain ⟨c, t, rfl⟩ := List.exists_cons_of_ne_nil h
  rw [escape_cons]
  exact fun h => escapeChar_ne_nil quotes c (List.append_eq_nil_iff.mp h).1

private theorem decodeLoop_entity {fuel : ℕ} {s rest : Text} {d : Char}
    (h : (entities.findSome? fun (name, d) => (after? name ('&' :: s)).map (d, ·)) = some (d, rest)) :
    decodeLoop (fuel + 1) ('&' :: s) = (decodeLoop fuel rest).map (d :: ·) := by
  rw [decodeLoop, if_pos rfl, h]
  rfl

/-- A character is written as itself or as its entity. -/
private theorem escapeChar_cases (quotes : Bool) (c : Char) :
    (c ≠ '&' ∧ escapeChar quotes c = [c]) ∨
      ∃ name, ('&' :: name, c) ∈ entities ∧ escapeChar quotes c = '&' :: name := by
  unfold escapeChar
  split_ifs with hamp hlt hgt hquote hapos
  · subst hamp
    exact Or.inr ⟨"amp;".toList, by decide, rfl⟩
  · subst hlt
    exact Or.inr ⟨"lt;".toList, by decide, rfl⟩
  · subst hgt
    exact Or.inr ⟨"gt;".toList, by decide, rfl⟩
  · obtain ⟨-, rfl⟩ := hquote
    exact Or.inr ⟨"quot;".toList, by decide, rfl⟩
  · obtain ⟨-, rfl⟩ := hapos
    exact Or.inr ⟨"apos;".toList, by decide, rfl⟩
  · exact Or.inl ⟨hamp, rfl⟩

private theorem findSome?_entities {name : Text} {d : Char} (h : (name, d) ∈ entities)
    (rest : Text) : (entities.findSome? fun e => (after? e.1 (name ++ rest)).map (e.2, ·)) =
      some (d, rest) := by
  simp only [entities, List.mem_cons, Prod.mk.injEq, List.not_mem_nil, or_false] at h
  rcases h with ⟨rfl, rfl⟩ | ⟨rfl, rfl⟩ | ⟨rfl, rfl⟩ | ⟨rfl, rfl⟩ | ⟨rfl, rfl⟩ <;> rfl

/-- A character other than a carriage return is read as it was written, if it is legal. -/
private theorem decodeLoop_escapeChar {c : Char} (quotes : Bool) (hc : c ≠ '\r') (fuel : ℕ)
    (rest : Text) : decodeLoop (fuel + 1) (escapeChar quotes c ++ rest) =
      if isXmlChar c then (decodeLoop fuel rest).map (c :: ·) else none := by
  rcases escapeChar_cases quotes c with ⟨hamp, hplain⟩ | ⟨name, hmem, hname⟩
  · rw [hplain, List.singleton_append, decodeLoop, if_neg hamp, if_neg hc]
  · have hlegal : isXmlChar c = true := by
      simp only [entities, List.mem_cons, Prod.mk.injEq, List.not_mem_nil, or_false] at hmem
      rcases hmem with ⟨-, rfl⟩ | ⟨-, rfl⟩ | ⟨-, rfl⟩ | ⟨-, rfl⟩ | ⟨-, rfl⟩ <;> rfl
    rw [hname, if_pos hlegal]
    exact decodeLoop_entity (findSome?_entities hmem rest)

private theorem head?_escape (quotes : Bool) (t : Text) :
    (escape quotes t).head? = some '\n' ↔ t.head? = some '\n' := by
  cases t with
  | nil => rfl
  | cons c t =>
    rw [escape_cons, List.head?_append_of_ne_nil _ (escapeChar_ne_nil quotes c), List.head?_cons]
    rcases escapeChar_cases quotes c with ⟨-, hplain⟩ | ⟨name, hmem, hname⟩
    · rw [hplain, List.head?_cons]
    · rw [hname, List.head?_cons]
      constructor
      · rintro ⟨⟩
      · rintro ⟨⟩
        exact absurd hmem (by simp [entities])

/-- **Escaped texts are read back**, line ends normalised. -/
theorem decode_escape (quotes : Bool) (t : Text) : decode (escape quotes t) = readText t := by
  have hloop : ∀ fuel, (escape quotes t).length ≤ fuel →
      decodeLoop fuel (escape quotes t) = readText t := by
    fun_induction normalLines t with
    | case1 =>
      intro fuel _
      cases fuel <;> rfl
    | case2 t ih =>
      -- the two characters of a line end are one
      intro fuel hfuel
      have hsplit : escape quotes ('\r' :: '\n' :: t) = '\r' :: '\n' :: escape quotes t := by
        rw [escape_cons, escape_cons]
        cases quotes <;> rfl
      rw [hsplit, List.length_cons, List.length_cons] at hfuel
      obtain ⟨n, rfl⟩ : ∃ n, fuel = n + 1 := ⟨fuel - 1, by omega⟩
      have hrest := ih n (by omega)
      rw [hsplit, decodeLoop, if_neg (by decide), if_pos rfl]
      show (decodeLoop n (escape quotes t)).map _ = _
      rw [hrest, readText, readText, List.all_cons, List.all_cons]
      show _ = if (t.all isXmlChar) = true then some ('\n' :: normalLines t) else none
      split_ifs <;> rfl
    | case3 t hnext ih =>
      intro fuel hfuel
      have hsplit : escape quotes ('\r' :: t) = '\r' :: escape quotes t := by
        rw [escape_cons]
        cases quotes <;> rfl
      rw [hsplit, List.length_cons] at hfuel
      obtain ⟨n, rfl⟩ : ∃ n, fuel = n + 1 := ⟨fuel - 1, by omega⟩
      have hrest := ih n (by omega)
      have hhead : (escape quotes t).head? ≠ some '\n' := by
        rw [ne_eq, head?_escape]
        intro h
        obtain ⟨u, rfl⟩ := List.head?_eq_some_iff.mp h
        exact hnext u rfl
      rw [hsplit, decodeLoop, if_neg (by decide), if_pos rfl, if_neg hhead, hrest, readText,
        readText, List.all_cons, normalLines.eq_3 t hnext]
      show _ = if (t.all isXmlChar) = true then some ('\n' :: normalLines t) else none
      split_ifs <;> rfl
    | case4 c t _ hc ih =>
      intro fuel hfuel
      have hpos := List.length_pos_of_ne_nil (escapeChar_ne_nil quotes c)
      rw [escape_cons, List.length_append] at hfuel
      obtain ⟨n, rfl⟩ : ∃ n, fuel = n + 1 := ⟨fuel - 1, by omega⟩
      have hrest := ih n (by omega)
      rw [escape_cons, decodeLoop_escapeChar quotes hc, readText_cons hc, hrest]
  exact hloop _ le_rfl

mutual
/-- A well formed node is read back as it is. -/
theorem readBack_of_wf : ∀ {x : Xml}, Wf x → readBack x = some x
  | .text t, h => by rw [readBack, readText_eq_self.mpr h.2]; rfl
  | .elem tag attrs content, ⟨_, _, hcontent⟩ => by
    rw [readBack, readBackAll_of_wf hcontent]
    rfl
theorem readBackAll_of_wf : ∀ {xs : List Xml}, WfAll xs → readBackAll xs = some xs
  | [], _ => rfl
  | x :: xs, ⟨hx, hxs, _⟩ => by
    rw [readBackAll, readBack_of_wf hx, Option.bind_some, readBackAll_of_wf hxs]
    rfl
end

theorem span_append {p : Char → Bool} {w s : Text} {c : Char} (hw : ∀ d ∈ w, p d = true)
    (hc : p c = false) : (w ++ c :: s).span p = (w, c :: s) := by
  rw [List.span_eq_takeWhile_dropWhile, List.takeWhile_append_of_pos hw,
    List.dropWhile_append_of_pos hw, List.takeWhile_cons_of_neg (by simp [hc]),
    List.dropWhile_cons_of_neg (by simp [hc]), List.append_nil]

theorem takeName_append {name s : Text} {c : Char} (h : WfName name) (hc : isNameChar c = false) :
    takeName (name ++ c :: s) = some (name, c :: s) := by
  obtain ⟨⟨d, r, rfl, hd⟩, hchars⟩ := h
  rw [List.cons_append, takeName, if_pos hd, ← List.cons_append, span_append hchars hc]

/-- A value of legal characters that mean nothing else is read as it stands. -/
theorem decode_plain {v : Text} (h : ∀ c ∈ v, isXmlChar c = true ∧ c ≠ '&' ∧ c ≠ '\r') :
    decode v = some v := by
  have hloop : ∀ fuel, v.length ≤ fuel → decodeLoop fuel v = some v := by
    induction v with
    | nil =>
      intro fuel _
      cases fuel <;> rfl
    | cons c v ih =>
      intro fuel hfuel
      obtain ⟨n, rfl⟩ : ∃ n, fuel = n + 1 := ⟨fuel - 1, by simp at hfuel; omega⟩
      obtain ⟨hchar, hamp, hcr⟩ := h c List.mem_cons_self
      rw [decodeLoop, if_neg hamp, if_neg hcr, if_pos hchar,
        ih (fun d hd => h d (List.mem_cons_of_mem _ hd)) n (Nat.le_of_succ_le_succ hfuel)]
      rfl
  exact hloop _ le_rfl

private theorem not_isNameStart {d : Char} (h : isNameStart d = true) :
    d ≠ '>' ∧ d ≠ '/' ∧ isXmlSpace d = false := by
  refine ⟨?_, ?_, ?_⟩
  · rintro rfl
    cases h
  · rintro rfl
    cases h
  · rw [← Bool.not_eq_true]
    intro hspace
    simp only [isXmlSpace, Bool.or_eq_true, decide_eq_true_eq] at hspace
    rcases hspace with ((rfl | rfl) | rfl) | rfl <;> cases h

theorem takeAttr_append {k v : Text} (s : Text) (hname : WfName k)
    (hvalue : ∀ c ∈ v, isXmlChar c = true ∧ c ≠ '"' ∧ c ≠ '<' ∧ c ≠ '&' ∧
      (isXmlSpace c = true → c = ' ')) :
    takeAttr (k ++ '=' :: '"' :: (v ++ '"' :: s)) = some ((k, v), s) := by
  have hdecode : decode v = some v := by
    refine decode_plain fun c hc => ⟨(hvalue c hc).1, (hvalue c hc).2.2.2.1, ?_⟩
    rintro rfl
    exact absurd ((hvalue '\r' hc).2.2.2.2 rfl) (by decide)
  have hnormal : (v.map fun c => if isXmlSpace c then ' ' else c) = v := by
    conv_rhs => rw [← List.map_id v]
    refine List.map_congr_left fun c hc => ?_
    split_ifs with hspace
    · exact ((hvalue c hc).2.2.2.2 hspace).symm
    · rfl
  have hnquote : ∀ c ∈ v, (decide (c ≠ '"')) = true := fun c hc => decide_eq_true (hvalue c hc).2.1
  have hspan := @span_append (· ≠ '"') v s '"' hnquote rfl
  rw [List.span_eq_takeWhile_dropWhile, Prod.mk.injEq] at hspan
  have hlt : '<' ∉ v := fun hc => (hvalue '<' hc).2.2.1 rfl
  have htake : takeValue ('"' :: (v ++ '"' :: s)) = some (v, s) := by
    show (if '<' ∈ (v ++ '"' :: s).takeWhile (· ≠ '"') then none else _) = _
    rw [hspan.1, if_neg hlt, hspan.2]
    show (decode v).map _ = _
    rw [hdecode, Option.map_some, hnormal]
  rw [takeAttr, takeName_append hname rfl]
  show (takeValue ('"' :: (v ++ '"' :: s))).map _ = _
  rw [htake]
  rfl

theorem length_le_length_attrsText (attrs : List (Text × Text)) :
    attrs.length ≤ (attrsText attrs).length := by
  induction attrs with
  | nil => exact Nat.zero_le _
  | cons e attrs ih =>
    have hone : 1 ≤ (' ' :: e.1 ++ '=' :: '"' :: e.2 ++ ['"']).length := by simp
    rw [attrsText, List.flatMap_cons, List.length_append, List.length_cons, Nat.add_comm]
    exact Nat.add_le_add hone ih

/-- The attributes of a start tag, one after the other. -/
theorem takeAttrs_append {attrs : List (Text × Text)} (h : WfAttrs attrs) (s : Text) :
    ∀ fuel, attrs.length < fuel → takeAttrs fuel
      (attrsText attrs ++ '>' :: s) = some (attrs, false, s) := by
  induction attrs with
  | nil =>
    intro fuel hfuel
    obtain ⟨n, rfl⟩ : ∃ n, fuel = n + 1 := ⟨fuel - 1, by simp at hfuel; omega⟩
    rfl
  | cons e attrs ih =>
    obtain ⟨k, v⟩ := e
    intro fuel hfuel
    obtain ⟨n, rfl⟩ : ∃ n, fuel = n + 1 := ⟨fuel - 1, by simp at hfuel; omega⟩
    obtain ⟨hnodup, hall⟩ := h
    rw [List.map_cons, List.nodup_cons] at hnodup
    obtain ⟨hname, hvalue⟩ := hall (k, v) List.mem_cons_self
    have hrest := ih ⟨hnodup.2, fun e he => hall e (List.mem_cons_of_mem _ he)⟩ n
      (Nat.lt_of_succ_lt_succ hfuel)
    rw [attrsText, List.flatMap_cons, List.append_assoc, ← attrsText]
    generalize attrsText attrs ++ '>' :: s = rest at hrest ⊢
    have hattr := takeAttr_append rest hname hvalue
    have htext : (' ' :: k ++ '=' :: '"' :: v ++ ['"']) ++ rest =
        ' ' :: (k ++ '=' :: '"' :: (v ++ '"' :: rest)) := by simp
    rw [htext]
    generalize htail : k ++ '=' :: '"' :: (v ++ '"' :: rest) = tail at hattr ⊢
    -- the name after the blank starts no end of the tag
    obtain ⟨⟨d, r, rfl, hd⟩, _⟩ := hname
    obtain ⟨hgt, hslash, hspace⟩ := not_isNameStart hd
    have hdrop : (' ' :: tail).dropWhile isXmlSpace = tail := by
      rw [← htail, List.dropWhile_cons_of_pos rfl, List.cons_append,
        List.dropWhile_cons_of_neg (by simp [hspace])]
    rw [takeAttrs]
    split
    · next heq =>
      rw [hdrop, ← htail] at heq
      exact absurd (List.cons.inj heq).1 hgt
    · next heq =>
      rw [hdrop, ← htail] at heq
      exact absurd (List.cons.inj heq).1 hslash
    · have hblank : ((' ' :: tail).head?.map isXmlSpace).getD false = true := rfl
      rw [hdrop, if_pos hblank, hattr]
      show (takeAttrs n rest).bind _ = _
      rw [hrest]
      exact if_neg hnodup.1

/-- What stands after contents: the end of the text, or an end tag. -/
def EndsContent (tail : Text) : Prop := tail = [] ∨ ∃ r, tail = '<' :: '/' :: r

/-- Contents that are no text start with a tag. -/
private theorem renderAll_head {quotes : Bool} {xs : List Xml} {tail : Text}
    (hxs : ¬ startsWithText xs) (htail : EndsContent tail) :
    renderAll quotes xs ++ tail = [] ∨ ∃ r, renderAll quotes xs ++ tail = '<' :: r := by
  cases xs with
  | nil =>
    rcases htail with rfl | ⟨r, rfl⟩
    · exact Or.inl rfl
    · exact Or.inr ⟨_, rfl⟩
  | cons x xs =>
    cases x with
    | text t => exact absurd trivial hxs
    | elem tag attrs content => exact Or.inr ⟨_, rfl⟩

/-- A text is read up to the next tag. -/
private theorem takeContent_text {quotes : Bool} {t rest : Text} (ht : t ≠ [])
    (hrest : rest = [] ∨ ∃ r, rest = '<' :: r) (fuel : ℕ) :
    takeContent (fuel + 1) (escape quotes t ++ rest) =
      (readText t).bind fun t =>
        (takeContent fuel rest).map fun (xs, r) => (.text t :: xs, r) := by
  have hlt := lt_not_mem_escape quotes t
  have hne : ∀ c ∈ escape quotes t, (decide (c ≠ '<')) = true := by
    intro c hc
    exact decide_eq_true fun h => hlt (h ▸ hc)
  have htake : (escape quotes t ++ rest).takeWhile (· ≠ '<') = escape quotes t := by
    rw [List.takeWhile_append_of_pos hne]
    rcases hrest with rfl | ⟨r, rfl⟩ <;> simp
  have hdrop : (escape quotes t ++ rest).dropWhile (· ≠ '<') = rest := by
    rw [List.dropWhile_append_of_pos hne]
    rcases hrest with rfl | ⟨r, rfl⟩ <;> simp
  have hescape := @escape_ne_nil quotes t ht
  obtain ⟨c, s, hcs⟩ := List.exists_cons_of_ne_nil hescape
  have hc : c ≠ '<' := fun h => hlt (by rw [hcs, h]; exact List.mem_cons_self)
  rw [hcs, List.cons_append] at htake hdrop ⊢
  rw [takeContent, if_neg hc, htake, hdrop, ← hcs, decode_escape]
  cases readText t <;> rfl

/-- An element is read up to its end tag. -/
private theorem takeContent_elem {tag : Text} {attrs : List (Text × Text)} {inner rest : Text}
    {content : Option (List Xml)} (htag : WfName tag) (hattrs : WfAttrs attrs) {fuel : ℕ}
    (hinner : takeContent fuel (inner ++ (endTag tag ++ rest)) =
      content.map (·, endTag tag ++ rest)) :
    takeContent (fuel + 1) (startTag tag attrs ++ (inner ++ endTag tag) ++ rest) =
      content.bind fun content =>
        (takeContent fuel rest).map fun (xs, r) => (.elem tag attrs content :: xs, r) := by
  have htext : startTag tag attrs ++ (inner ++ endTag tag) ++ rest = '<' :: (tag ++
      (attrsText attrs ++
        '>' :: (inner ++ (endTag tag ++ rest)))) := by
    simp [startTag, List.append_assoc]
  have hattr := takeAttrs_append hattrs (inner ++ (endTag tag ++ rest))
  have hlength : attrs.length <
      (attrsText attrs ++ '>' :: (inner ++ (endTag tag ++ rest))).length + 1 := by
    have hattrs := length_le_length_attrsText attrs
    rw [List.length_append]
    omega
  have hattr := hattr _ hlength
  -- the tag's name ends where its attributes or its end begin
  have hname : ∀ s, s = attrsText attrs ++
      '>' :: (inner ++ (endTag tag ++ rest)) → takeName (tag ++ s) = some (tag, s) := by
    rintro s rfl
    cases attrs with
    | nil => exact takeName_append htag rfl
    | cons e attrs => exact takeName_append htag rfl
  rw [htext]
  generalize attrsText attrs ++
    '>' :: (inner ++ (endTag tag ++ rest)) = s at hattr hname ⊢
  have hslash : (tag ++ s).head? ≠ some '/' := by
    obtain ⟨⟨c, r, rfl, hc⟩, _⟩ := htag
    intro h
    exact (not_isNameStart hc).2.1 (Option.some.inj h)
  have hend : after? ('<' :: '/' :: tag) (endTag tag ++ rest) = some ('>' :: rest) := by
    have happend := after?_append ('<' :: '/' :: tag) ('>' :: rest)
    rw [← happend]
    simp [endTag]
  rw [takeContent, if_pos rfl, if_neg hslash, hname s rfl]
  dsimp only
  rw [hattr]
  dsimp only
  rw [hinner]
  cases content with
  | none => rfl
  | some content =>
    rw [Option.map_some, Option.bind_some]
    dsimp only
    rw [hend]
    rfl

/-- **Contents are read back.** -/
theorem takeContent_renderAll (quotes : Bool) : ∀ (fuel : ℕ) (xs : List Xml) (tail : Text),
    FormedAll xs → sizeAll xs < fuel → EndsContent tail →
      takeContent fuel (renderAll quotes xs ++ tail) = (readBackAll xs).map (·, tail)
  | 0, _, _, _, hfuel, _ => absurd hfuel (Nat.not_lt_zero _)
  | fuel + 1, [], tail, _, _, htail => by
    rcases htail with rfl | ⟨r, rfl⟩ <;> rfl
  | fuel + 1, .text t :: xs, tail, ⟨ht, hxs, hnext⟩, hfuel, htail => by
    have hsize : 1 + sizeAll xs < fuel + 1 := hfuel
    have hrest := takeContent_renderAll quotes fuel xs tail hxs (by omega) htail
    rw [renderAll, List.append_assoc]
    refine (takeContent_text ht (renderAll_head (hnext trivial) htail) fuel).trans ?_
    rw [hrest, readBackAll, readBack]
    cases readText t <;> cases readBackAll xs <;> rfl
  | fuel + 1, .elem tag attrs content :: xs, tail, ⟨⟨htag, hattrs, hcontent⟩, hxs, _⟩, hfuel,
      htail => by
    have hsize : 1 + sizeAll content + sizeAll xs < fuel + 1 := hfuel
    have hrest := takeContent_renderAll quotes fuel xs tail hxs (by omega) htail
    have hinner := takeContent_renderAll quotes fuel content
      (endTag tag ++ (renderAll quotes xs ++ tail)) hcontent (by omega) (Or.inr ⟨_, rfl⟩)
    rw [renderAll, List.append_assoc, render]
    refine (takeContent_elem htag hattrs hinner).trans ?_
    rw [hrest, readBackAll, readBack]
    cases readBackAll content <;> cases readBackAll xs <;> rfl

mutual
theorem size_le_length_render (quotes : Bool) :
    ∀ {x : Xml}, Formed x → size x ≤ (render quotes x).length
  | .text _, h => List.length_pos_of_ne_nil (escape_ne_nil h)
  | .elem tag attrs content, ⟨_, _, hcontent⟩ => by
    have hrest := sizeAll_le_length_renderAll quotes hcontent
    have hstart : 1 ≤ (startTag tag attrs).length := by simp [startTag]
    rw [size, render, List.length_append, List.length_append]
    omega
theorem sizeAll_le_length_renderAll (quotes : Bool) : ∀ {xs : List Xml}, FormedAll xs →
    sizeAll xs ≤ (renderAll quotes xs).length
  | [], _ => Nat.le_refl 0
  | x :: xs, ⟨hx, hxs, _⟩ => by
    have hhead := size_le_length_render quotes hx
    have htail := sizeAll_le_length_renderAll quotes hxs
    rw [sizeAll, renderAll, List.length_append]
    exact Nat.add_le_add hhead htail
end

private theorem takeContent_render (quotes : Bool) {x : Xml} (h : Formed x) :
    takeContent ((render quotes x).length + 1) (render quotes x) =
      (readBack x).map fun y => ([y], []) := by
  have hone : FormedAll [x] := ⟨h, trivial, fun _ h => h⟩
  have hsize := sizeAll_le_length_renderAll quotes hone
  have htext : renderAll quotes [x] = render quotes x := List.append_nil _
  have hcontent := takeContent_renderAll quotes ((render quotes x).length + 1) [x] [] hone
    (by rw [htext] at hsize; omega) (Or.inl rfl)
  rw [List.append_nil, htext] at hcontent
  rw [hcontent, readBackAll, readBackAll]
  cases readBack x <;> rfl

/-- **A document is read back**, as far as its texts are. -/
theorem parse_render (quotes : Bool) {tag : Text} {attrs : List (Text × Text)} {content : List Xml}
    (h : Formed (.elem tag attrs content)) :
    parse (render quotes (.elem tag attrs content)) = readBack (.elem tag attrs content) := by
  rw [parse, takeContent_render quotes h, readBack]
  cases readBackAll content <;> rfl

/-- A declaration is skipped. -/
theorem afterDeclaration_append {decl : Text} (s : Text)
    (h : PyRe.clear PyRe.same "?>".toList decl = true) :
    afterDeclaration ("<?xml ".toList ++ (decl ++ ("?>".toList ++ s))) = s := by
  have hafter : after? "<?xml".toList ("<?xml ".toList ++ (decl ++ ("?>".toList ++ s))) =
      some (' ' :: (decl ++ ("?>".toList ++ s))) :=
    after?_append "<?xml".toList (' ' :: (decl ++ ("?>".toList ++ s)))
  have hdrop : (decl ++ ("?>".toList ++ s)).drop (decl.length + 2) = s := by
    rw [← List.append_assoc]
    have hlength : decl.length + 2 = (decl ++ "?>".toList).length := by
      rw [List.length_append]
      rfl
    rw [hlength, List.drop_left]
  have hspace : isXmlSpace ' ' = true := rfl
  rw [afterDeclaration, hafter]
  dsimp only
  rw [if_pos hspace, PyRe.find_append s (by decide) h, Option.map_some, hdrop]
  rfl

/-- **A document with its declaration is read back**, as far as its texts are. -/
theorem parseDocument_render (quotes : Bool) {decl tag : Text} {attrs : List (Text × Text)}
    {content : List Xml} (hdecl : PyRe.clear PyRe.same "?>".toList decl = true)
    (h : Formed (.elem tag attrs content)) :
    parseDocument ("<?xml ".toList ++ (decl ++ ("?>".toList ++
      render quotes (.elem tag attrs content)))) = readBack (.elem tag attrs content) := by
  rw [parseDocument, afterDeclaration_append _ hdecl, takeContent_render quotes h, readBack]
  cases readBackAll content <;> rfl

@[simp] theorem ownText_field (tag : String) (t : Text) : ownText (field tag t) = t := by
  cases t <;> rfl

theorem readBack_field (tag : String) (t : Text) :
    readBack (field tag t) = (readText t).map (field tag) := by
  by_cases hnil : t = []
  · rw [hnil]
    rfl
  · have hlines : normalLines t ≠ [] := by
      fun_cases normalLines t with
      | case1 => exact absurd rfl hnil
      | case2 | case3 | case4 => exact List.cons_ne_nil _ _
    rw [field, if_neg hnil, node, readBack, readBackAll, readBackAll, readBack, readText]
    split_ifs
    · show some (elem tag.toList [] [text (normalLines t)]) = some (field tag (normalLines t))
      rw [field, if_neg hlines, node]
    · rfl

/-! ## §4 Words that are not in a document -/

mutual
/-- The tags of a tree. -/
def tags : Xml → List Text
  | .text _ => []
  | .elem tag _ content => tag :: tagsAll content
def tagsAll : List Xml → List Text
  | [] => []
  | x :: xs => tags x ++ tagsAll xs
end

theorem mem_tagsAll {xs : List Xml} {tag : Text} : tag ∈ tagsAll xs ↔ ∃ x ∈ xs, tag ∈ tags x := by
  induction xs with
  | nil => simp [tagsAll]
  | cons x xs ih => rw [tagsAll, List.mem_append, ih, List.exists_mem_cons_iff]

open PyRe in
/-- A word that starts like a tag, but is none of those in the tree. -/
private theorem clear_tag {d : Char} {w name s : Text} (hd : isNameStart d = false)
    (hname : WfName name) (hs : '<' ∉ s) :
    clear same ('<' :: d :: w) ('<' :: name ++ s) = true := by
  obtain ⟨⟨c, r, rfl, hc⟩, hchars⟩ := hname
  have hdc : same d c = false := by
    rw [same, beq_eq_false_iff_ne]
    rintro rfl
    rw [hc] at hd
    cases hd
  have hrest : ∀ e ∈ (c :: r) ++ s, same '<' e = false := by
    intro e he
    rw [same, beq_eq_false_iff_ne]
    rintro rfl
    rcases List.mem_append.mp he with he | he
    · exact absurd (hchars '<' he) (by decide)
    · exact hs he
  rw [List.cons_append, clear, Bool.and_eq_true]
  refine ⟨?_, clear_of_head hrest⟩
  rw [List.cons_append, mismatch, mismatch, hdc]
  simp

open PyRe in
mutual
theorem clear_render (quotes : Bool) {d : Char} {w : Text} (hd : isNameStart d = false) :
    ∀ {x : Xml}, Formed x →
      (∀ tag ∈ tags x, mismatch same (d :: w) ('/' :: tag ++ ['>']) = true) →
      clear same ('<' :: d :: w) (render quotes x) = true
  | .text t, _, _ => by
    refine clear_of_head fun c hc => ?_
    rw [same, beq_eq_false_iff_ne]
    rintro rfl
    exact lt_not_mem_escape quotes t hc
  | .elem tag attrs content, ⟨htag, hattrs, hcontent⟩, h => by
    have hlt : '<' ∉ attrsText attrs ++ ['>'] := by
      intro hmem
      rcases List.mem_append.mp hmem with hmem | hmem
      · obtain ⟨⟨k, v⟩, he, hc⟩ := List.mem_flatMap.mp hmem
        obtain ⟨hk, hv⟩ := hattrs.2 (k, v) he
        simp only [List.cons_append, List.mem_cons, List.mem_append, List.not_mem_nil] at hc
        rcases hc with hc | (hc | hc | hc | hc) | hc
        · cases hc
        · exact absurd (hk.2 '<' hc) (by decide)
        · cases hc
        · cases hc
        · exact (hv '<' hc).2.2.1 rfl
        · rcases hc with hc | hc <;> cases hc
      · cases List.mem_singleton.mp hmem
    have hend : clear same ('<' :: d :: w) (endTag tag) = true := by
      rw [endTag, List.cons_append, clear, Bool.and_eq_true]
      constructor
      · rw [mismatch, h tag List.mem_cons_self]
        simp
      · refine clear_of_head fun c hc => ?_
        rw [same, beq_eq_false_iff_ne]
        rintro rfl
        simp only [List.cons_append, List.mem_cons, List.mem_append, List.not_mem_nil] at hc
        rcases hc with hc | hc | hc
        · cases hc
        · exact absurd (htag.2 '<' hc) (by decide)
        · rcases hc with hc | hc <;> cases hc
    have hstart : clear same ('<' :: d :: w) (startTag tag attrs) = true := by
      rw [startTag, List.append_assoc]
      exact clear_tag hd htag hlt
    have hinner := clear_renderAll quotes hd hcontent fun t ht => h t (List.mem_cons_of_mem _ ht)
    exact clear_append hstart (clear_append hinner hend)
theorem clear_renderAll (quotes : Bool) {d : Char} {w : Text} (hd : isNameStart d = false) :
    ∀ {xs : List Xml}, FormedAll xs →
      (∀ tag ∈ tagsAll xs, mismatch same (d :: w) ('/' :: tag ++ ['>']) = true) →
      clear same ('<' :: d :: w) (renderAll quotes xs) = true
  | [], _, _ => rfl
  | _ :: _, ⟨hx, hxs, _⟩, h =>
    clear_append (clear_render quotes hd hx fun t ht => h t (List.mem_append_left _ ht))
      (clear_renderAll quotes hd hxs fun t ht => h t (List.mem_append_right _ ht))
end

end Xml
