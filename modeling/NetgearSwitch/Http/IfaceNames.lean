import Mathlib.Data.Finset.Lattice.Fold
import Mathlib.Order.Interval.Finset.Nat
import NetgearSwitch.Lib.Html
import NetgearSwitch.Lib.PyLines

/-!
# Interface names of the FASTPATH pages

The recognisers of `unit/slot/port` names in `protocols/http/parse.py`: which physical port
`parse_m4300_macs`, `parse_xe_macs`, `_fastpath_physical_port`, `_expand_port_list` and
`_expand_s3300_port_list` make of a text.

`int` raises `ValueError` on more than 4300 digits; the outer `none` stands for that here.
-/

namespace NetgearSwitch.Http

open PyText PyRe

/-! ## §1 The patterns -/

section Patterns

variable {α : Type}

/-- `_FASTPATH_IFACE_RE`: unit, slot and port. -/
def fastpathIfaceRe (k : (Text × Text) × Text → Rest α) : Rest α :=
  many1 isDecimal fun u => lit "/" <| many1 isDecimal fun s => lit "/" <|
    many1 isDecimal fun p => k ((u, s), p)

/-- `_XE_SMART_IFACE_RE`: the port. -/
def xeSmartIfaceRe (k : Unit × Text → Rest α) : Rest α :=
  lit "1/" <| opt (lit "x") <| lit "g" <| many1 isDecimal fun p => k ((), p)

/-- `(\d+)/x?g(\d+)`: the port. -/
def smartNameRe (k : Text → Rest α) : Rest α :=
  many1 isDecimal fun _ => lit "/" <| opt (lit "x") <| lit "g" <| many1 isDecimal k

end Patterns

/-! ## §2 The recognisers -/

/-- The port of an `Intf` cell in `parse_m4300_macs`. -/
def m4300MacPort (intf : Text) : Option (Option ℕ) :=
  match fastpathIfaceRe atEnd (strip intf) with
  | none => some none
  | some (_, p) => (intOfDecimals p).map some

/-- The port of a Port cell in `parse_xe_macs`. -/
def xeMacPort (port : Text) : Option (Option ℕ) :=
  match fastpathIfaceRe atEnd (strip port) with
  | none => some none
  | some ((_, s), p) => if s = ['0'] then (intOfDecimals p).map some else some none

/-- `_fastpath_physical_port` of an ifName whose character references are resolved and which is
stripped. -/
def physicalPortOf (text : Text) : Option (Option ℕ) :=
  match fastpathIfaceRe atEnd text with
  | some ((u, s), p) => do
    let unit ← intOfDecimals u
    let slot ← intOfDecimals s
    let port ← intOfDecimals p
    some (if unit ≠ 0 ∧ slot = 0 then some port else none)
  | none =>
    match smartNameRe atEnd text with
    | some p => (intOfDecimals p).map some
    | none => some none

/-- `_fastpath_physical_port`, over the table of the named character references. -/
def fastpathPhysicalPort (named : Text → Option Text) (ifname : Text) : Option (Option ℕ) :=
  (Html.unescape named ifname).bind fun text => physicalPortOf (strip text)

/-- The ports of one entry of an egress list, given its interface names and whether it has a
dash. -/
def expandEntry {κ : Type} [DecidableEq κ] (dash : Bool) (ends : List (κ × Text)) :
    Option (Finset ℕ) :=
  match dash, ends with
  | true, [(k₁, p₁), (k₂, p₂)] => do
    let lo ← intOfDecimals p₁
    let hi ← intOfDecimals p₂
    some (if k₁ = k₂ ∧ lo ≤ hi then Finset.Icc lo hi else {lo, hi})
  | _, ends => (ends.mapM fun e => intOfDecimals e.2).map List.toFinset

/-- The ports of an egress list whose interface names `findall` finds. -/
def expandList {κ : Type} [DecidableEq κ] (findall : Text → List (κ × Text)) (raw : Text) :
    Option (Finset ℕ) :=
  ((raw.splitOn ',').mapM fun part => expandEntry (part.contains '-') (findall part)).map
    fun ports => ports.foldr (· ∪ ·) ∅

/-- `_expand_port_list`. -/
def expandPortList (raw : Text) : Option (Finset ℕ) := expandList (finditer (fastpathIfaceRe done)) raw

/-- `_expand_s3300_port_list`. -/
def expandS3300PortList (raw : Text) : Option (Finset ℕ) :=
  expandList (finditer (xeSmartIfaceRe done)) raw

/-! ## §3 What the patterns match -/

/-- A run of `\d`. -/
def IsDigitRun (t : Text) : Prop := t ≠ [] ∧ ∀ c ∈ t, isDecimal c = true

theorem isDigitRun_natText (n : ℕ) : IsDigitRun (natText n) :=
  ⟨natText_ne_nil n, fun c hc => isDecimal_of_isDigit (all_isDigit_natText n c hc)⟩

/-- The text of a `unit/slot/port` name. -/
def slashName (u s p : Text) : Text := u ++ '/' :: (s ++ '/' :: p)

theorem isDecimal_slash : isDecimal '/' = false := by decide

/-- A text that no run of digits at its front can take a character of. -/
def NoDigitHead (t : Text) : Prop := ∀ c, t.head? = some c → isDecimal c = false

section Match

variable {α : Type} {u s p rest : Text}

theorem many1_digits {k : Text → Rest α} {a : α} (hp : IsDigitRun p) (hrest : NoDigitHead rest)
    (hk : k p rest = some a) : many1 isDecimal k (p ++ rest) = some a := by
  cases rest with
  | nil =>
    rw [List.append_nil]
    exact many1_all hp.1 hp.2 hk
  | cons d rest => exact many1_span hp.1 hp.2 (hrest d rfl) hk

theorem fastpathIfaceRe_append {k : (Text × Text) × Text → Rest α} {a : α} (hu : IsDigitRun u)
    (hs : IsDigitRun s) (hp : IsDigitRun p) (hrest : NoDigitHead rest)
    (hk : k ((u, s), p) rest = some a) : fastpathIfaceRe k (slashName u s p ++ rest) = some a := by
  have hport := many1_digits (k := fun p => k ((u, s), p)) hp hrest hk
  have hslot : (many1 isDecimal fun s => lit "/" <| many1 isDecimal fun p => k ((u, s), p))
      (s ++ '/' :: (p ++ rest)) = some a := by
    refine many1_span hs.1 hs.2 isDecimal_slash ?_
    exact (lit_append "/" (p ++ rest) _).trans hport
  have hunit : fastpathIfaceRe k (u ++ '/' :: (s ++ '/' :: (p ++ rest))) = some a := by
    refine many1_span hu.1 hu.2 isDecimal_slash ?_
    exact (lit_append "/" (s ++ '/' :: (p ++ rest)) _).trans hslot
  simpa [slashName] using hunit

theorem noDigitHead_nil : NoDigitHead [] := fun c h => by cases h

/-- What the pattern matches starts with a name. -/
theorem eq_slashName_of_isSome {k : (Text × Text) × Text → Rest α} {t : Text}
    (h : (fastpathIfaceRe k t).isSome = true) : ∃ u s p rest, t = slashName u s p ++ rest ∧
      IsDigitRun u ∧ IsDigitRun s ∧ IsDigitRun p ∧ (k ((u, s), p) rest).isSome = true := by
  obtain ⟨u, _, rfl, hune, hu, h⟩ := isSome_many1.mp h
  obtain ⟨_, rfl, h⟩ := isSome_lit.mp h
  obtain ⟨s, _, rfl, hsne, hs, h⟩ := isSome_many1.mp h
  obtain ⟨_, rfl, h⟩ := isSome_lit.mp h
  obtain ⟨p, rest, rfl, hpne, hp, h⟩ := isSome_many1.mp h
  exact ⟨u, s, p, rest, by simp [slashName], ⟨hune, hu⟩, ⟨hsne, hs⟩, ⟨hpne, hp⟩, h⟩

/-- `fullmatch` takes the names, and nothing else. -/
theorem fullmatch_iface_iff {t : Text} : fastpathIfaceRe atEnd t = some ((u, s), p) ↔
    t = slashName u s p ∧ IsDigitRun u ∧ IsDigitRun s ∧ IsDigitRun p := by
  have hname : ∀ {u s p : Text}, IsDigitRun u → IsDigitRun s → IsDigitRun p →
      fastpathIfaceRe atEnd (slashName u s p) = some ((u, s), p) := by
    intro u s p hu hs hp
    have hmatch := fastpathIfaceRe_append (k := atEnd) hu hs hp noDigitHead_nil rfl
    rwa [List.append_nil] at hmatch
  constructor
  · intro h
    obtain ⟨u', s', p', rest, rfl, hu, hs, hp, hend⟩ :=
      eq_slashName_of_isSome (Option.isSome_iff_exists.mpr ⟨_, h⟩)
    rw [isSome_atEnd.mp hend, List.append_nil] at h ⊢
    cases (hname hu hs hp).symm.trans h
    exact ⟨rfl, hu, hs, hp⟩
  · rintro ⟨rfl, hu, hs, hp⟩
    exact hname hu hs hp

theorem fullmatch_iface_eq_none_iff {t : Text} : fastpathIfaceRe atEnd t = none ↔
    ∀ u s p, IsDigitRun u → IsDigitRun s → IsDigitRun p → t ≠ slashName u s p := by
  constructor
  · rintro h u s p hu hs hp rfl
    cases h.symm.trans (fullmatch_iface_iff.mpr ⟨rfl, hu, hs, hp⟩)
  · intro h
    cases hmatch : fastpathIfaceRe atEnd t with
    | none => rfl
    | some name =>
      obtain ⟨⟨u, s⟩, p⟩ := name
      obtain ⟨rfl, hu, hs, hp⟩ := fullmatch_iface_iff.mp hmatch
      exact absurd rfl (h u s p hu hs hp)

end Match

/-! ## §4 Scanning for names -/

section Scan

variable {α : Type} {m : Rest (α × Text)} {t name front back : Text} {a : α}

/-- A pattern whose matches begin with digits and a slash. -/
def Slashed (m : Rest α) : Prop :=
  ∀ v, (m v).isSome = true → ∃ d r, v = d ++ '/' :: r ∧ IsDigitRun d

theorem slashed_iface {k : (Text × Text) × Text → Rest α} : Slashed (fastpathIfaceRe k) := by
  intro v h
  obtain ⟨u, s, p, rest, rfl, hu, _, _, _⟩ := eq_slashName_of_isSome h
  exact ⟨u, s ++ '/' :: (p ++ rest), by simp [slashName], hu⟩

theorem slashed_smart {k : Unit × Text → Rest α} : Slashed (xeSmartIfaceRe k) := by
  intro v h
  obtain ⟨r, rfl, _⟩ := isSome_lit.mp h
  exact ⟨['1'], r, rfl, by decide, by decide⟩

/-- Characters that are no digits are passed over. -/
theorem findall_skip (hm : Slashed m) (ht : ∀ c ∈ t, isDecimal c = false) (s : Text) :
    finditer m (t ++ s) = finditer m s := by
  apply finditer_append
  intro u v huv hv
  rw [← Option.not_isSome_iff_eq_none]
  intro hsome
  obtain ⟨d, r, heq, hne, hd⟩ := hm _ hsome
  obtain ⟨c, v, rfl⟩ := List.exists_cons_of_ne_nil hv
  obtain ⟨e, d, rfl⟩ := List.exists_cons_of_ne_nil hne
  obtain ⟨rfl, _⟩ := List.cons.inj heq
  have hc := ht c (huv ▸ List.mem_append_right u List.mem_cons_self)
  cases (hd c List.mem_cons_self).symm.trans hc

/-- Nothing is found without a slash. -/
theorem findall_of_not_mem (hm : Slashed m) (ht : '/' ∉ t) : finditer m t = [] := by
  rw [finditer_eq_nil_iff]
  intro u v huv _
  rw [← Option.not_isSome_iff_eq_none]
  intro hsome
  obtain ⟨d, r, rfl, _⟩ := hm _ hsome
  exact ht (huv ▸ List.mem_append_right u (List.mem_append_right d List.mem_cons_self))

/-- One name and what stands behind it. -/
theorem findall_name (hm : Slashed m) (hfront : ∀ c ∈ front, isDecimal c = false)
    (hname : name ≠ []) (s : Text) (h : m (name ++ s) = some (a, s)) :
    finditer m (front ++ (name ++ s)) = a :: finditer m s := by
  rw [findall_skip hm hfront, finditer_match hname h]

end Scan

/-! ## §5 Names anywhere in a text -/

/-- There is a `unit/slot/port` name in the text. -/
def HasSlashName (t : Text) : Prop :=
  ∃ u s p, IsDigitRun u ∧ IsDigitRun s ∧ IsDigitRun p ∧ slashName u s p <:+: t

section Infix

variable {u s p t : Text}

theorem mem_slashName {c : Char} (hu : IsDigitRun u) (hs : IsDigitRun s) (hp : IsDigitRun p)
    (h : c ∈ slashName u s p) : c = '/' ∨ isDecimal c = true := by
  simp only [slashName, List.mem_append, List.mem_cons] at h
  rcases h with h | h | h | h | h
  · exact Or.inr (hu.2 c h)
  · exact Or.inl h
  · exact Or.inr (hs.2 c h)
  · exact Or.inl h
  · exact Or.inr (hp.2 c h)

/-- No other character than a slash and the digits stands in a name. -/
theorem not_mem_slashName {c : Char} (hu : IsDigitRun u) (hs : IsDigitRun s) (hp : IsDigitRun p)
    (hslash : c ≠ '/') (hc : isDecimal c = false) : c ∉ slashName u s p := by
  intro h
  rcases mem_slashName hu hs hp h with h | h
  · exact hslash h
  · exact Bool.false_ne_true (hc.symm.trans h)

theorem slashName_ne_nil : slashName u s p ≠ [] := by simp [slashName]

theorem isSome_iface_append (hu : IsDigitRun u) (hs : IsDigitRun s) (hp : IsDigitRun p)
    (rest : Text) : (fastpathIfaceRe done (slashName u s p ++ rest)).isSome = true := by
  refine isSome_many1.mpr ⟨u, '/' :: (s ++ '/' :: (p ++ rest)), by simp [slashName], hu.1, hu.2, ?_⟩
  refine isSome_lit.mpr ⟨_, rfl, ?_⟩
  refine isSome_many1.mpr ⟨s, '/' :: (p ++ rest), rfl, hs.1, hs.2, ?_⟩
  refine isSome_lit.mpr ⟨_, rfl, ?_⟩
  exact isSome_many1.mpr ⟨p, rest, rfl, hp.1, hp.2, rfl⟩

theorem findall_iface_eq_nil_iff :
    finditer (fastpathIfaceRe done) t = [] ↔ ¬ HasSlashName t := by
  rw [finditer_eq_nil_iff]
  constructor
  · rintro h ⟨u, s, p, hu, hs, hp, a, b, rfl⟩
    have hnone := h a (slashName u s p ++ b) (by rw [List.append_assoc])
      (fun hnil => slashName_ne_nil (List.append_eq_nil_iff.mp hnil).1)
    have hsome := isSome_iface_append hu hs hp b
    rw [hnone] at hsome
    exact Bool.false_ne_true hsome
  · intro h a v ht _
    rw [← Option.not_isSome_iff_eq_none]
    intro hsome
    obtain ⟨u, s, p, rest, rfl, hu, hs, hp, _⟩ := eq_slashName_of_isSome hsome
    exact h ⟨u, s, p, hu, hs, hp, a, rest, by rw [ht, List.append_assoc]⟩

theorem hasSlashName_splitOn :
    HasSlashName t ↔ ∃ part ∈ t.splitOn ',', HasSlashName part := by
  constructor
  · rintro ⟨u, s, p, hu, hs, hp, hin⟩
    have hcomma : ',' ∉ slashName u s p := not_mem_slashName hu hs hp (by decide) (by decide)
    obtain ⟨part, hpart, hin⟩ := exists_mem_splitOn hcomma hin
    exact ⟨part, hpart, u, s, p, hu, hs, hp, hin⟩
  · rintro ⟨part, hpart, u, s, p, hu, hs, hp, hin⟩
    exact ⟨u, s, p, hu, hs, hp, hin.trans (infix_of_mem_splitOn hpart)⟩

theorem hasSlashName_strip (h : strip t = slashName u s p) (hu : IsDigitRun u) (hs : IsDigitRun s)
    (hp : IsDigitRun p) : HasSlashName t := by
  obtain ⟨front, back, ht, _, _⟩ := exists_strip t
  exact ⟨u, s, p, hu, hs, hp, front, back, by rw [← h, ← ht]⟩

end Infix

section Expand

variable {κ : Type} [DecidableEq κ] {findall : Text → List (κ × Text)} {raw : Text}

@[simp] theorem expandEntry_nil (dash : Bool) : expandEntry dash ([] : List (κ × Text)) = some ∅ := by
  cases dash <;> rfl

/-- An entry with an interface name is no empty set of ports. -/
theorem expandEntry_ne_empty {dash : Bool} {ends : List (κ × Text)} (h : ends ≠ []) :
    expandEntry dash ends ≠ some ∅ := by
  intro hempty
  unfold expandEntry at hempty
  split at hempty
  · simp only [Option.bind_eq_bind, Option.bind_eq_some_iff, Option.some.injEq] at hempty
    obtain ⟨lo, _, hi, _, hports⟩ := hempty
    split_ifs at hports with hrange
    · rw [Finset.Icc_eq_empty_iff] at hports
      exact hports hrange.2
    · exact Finset.insert_ne_empty lo {hi} hports
  · obtain ⟨e, es, rfl⟩ := List.exists_cons_of_ne_nil h
    obtain ⟨ns, hns, hports⟩ := Option.map_eq_some_iff.mp hempty
    rw [List.toFinset_eq_empty_iff] at hports
    rw [hports, List.mapM_cons] at hns
    simp only [Option.bind_eq_bind, Option.bind_eq_some_iff, Option.pure_def, Option.some.injEq,
      reduceCtorEq, and_false, exists_false] at hns

/-- The ports of a list, entry by entry. -/
theorem expandList_eq_some {raw : Text} {sets : List (Finset ℕ)}
    (h : List.Forall₂ (fun part ports => expandEntry (part.contains '-') (findall part) = some ports)
      (raw.splitOn ',') sets) : expandList findall raw = some (sets.foldr (· ∪ ·) ∅) := by
  have hmap : ∀ {parts : List Text} {sets : List (Finset ℕ)},
      List.Forall₂ (fun part ports => expandEntry (part.contains '-') (findall part) = some ports)
        parts sets →
      parts.mapM (fun part => expandEntry (part.contains '-') (findall part)) = some sets := by
    intro parts sets h
    induction h with
    | nil => rfl
    | cons hpart _ ih =>
      rw [List.mapM_cons, hpart, ih]
      rfl
  rw [expandList, hmap h, Option.map_some]

theorem expandList_eq_empty_iff : expandList findall raw = some ∅ ↔
    ∀ part ∈ raw.splitOn ',', findall part = [] := by
  have hparts : ∀ parts : List Text,
      (parts.mapM fun part => expandEntry (part.contains '-') (findall part)).map
        (fun ports => ports.foldr (· ∪ ·) ∅) = some ∅ ↔ ∀ part ∈ parts, findall part = [] := by
    intro parts
    induction parts with
    | nil => simp
    | cons part parts ih =>
      rw [List.forall_mem_cons, ← ih, List.mapM_cons]
      by_cases hnil : findall part = []
      · rw [hnil, expandEntry_nil]
        cases parts.mapM fun part => expandEntry (part.contains '-') (findall part) <;> simp
      · have hne := @expandEntry_ne_empty _ _ (part.contains '-') _ hnil
        cases hentry : expandEntry (part.contains '-') (findall part) with
        | none => simp [hnil]
        | some ports =>
          have hports : ports ≠ ∅ := fun hempty => hne (by rw [hentry, hempty])
          cases parts.mapM fun part => expandEntry (part.contains '-') (findall part) with
          | none => simp [hnil]
          | some sets => simp [hnil, hports]
  exact hparts _

end Expand

/-! ## §6 One name, four recognisers -/

section SameAttribution

variable {named : Text → Option Text} {t u s p : Text}

/-- All four recognisers leave the text alone. -/
def NonPhysical (named : Text → Option Text) (t : Text) : Prop :=
  m4300MacPort t = some none ∧ xeMacPort t = some none ∧
    fastpathPhysicalPort named t = some none ∧ expandPortList t = some ∅

/-- All four recognisers read the port `n`. -/
def PhysicalAs (named : Text → Option Text) (t : Text) (n : ℕ) : Prop :=
  m4300MacPort t = some (some n) ∧ xeMacPort t = some (some n) ∧
    fastpathPhysicalPort named t = some (some n) ∧ expandPortList t = some {n}

/-- The stripped text is `unit/0/port`, no unit 0, and `int` reads its numbers. -/
def IsPhysicalName (t : Text) : Prop :=
  ∃ u p unit port, strip t = slashName u ['0'] p ∧ IsDigitRun u ∧ IsDigitRun p ∧
    intOfDecimals u = some unit ∧ intOfDecimals p = some port ∧ unit ≠ 0

/-- No `unit/slot/port` name stands anywhere in the text, and the text is no physical name when its
character references are resolved. -/
def IsOtherName (named : Text → Option Text) (t : Text) : Prop :=
  ¬ HasSlashName t ∧ ∃ text, Html.unescape named t = some text ∧
    smartNameRe atEnd (strip text) = none ∧
    ∀ u s p, strip text = slashName u s p → IsDigitRun u → IsDigitRun s → IsDigitRun p →
      ∃ unit slot port, intOfDecimals u = some unit ∧ intOfDecimals s = some slot ∧
        intOfDecimals p = some port ∧ (unit = 0 ∨ slot ≠ 0)

theorem mem_of_smartName {α : Type} {k : Text → Rest α} (h : (smartNameRe k t).isSome = true) :
    'g' ∈ t := by
  obtain ⟨u, _, rfl, _, _, h⟩ := isSome_many1.mp h
  obtain ⟨_, rfl, h⟩ := isSome_lit.mp h
  have hg : ∀ {r : Text}, (lit "g" (many1 isDecimal k) r).isSome = true → 'g' ∈ r := by
    intro r h
    obtain ⟨_, rfl, _⟩ := isSome_lit.mp h
    exact List.mem_cons_self
  refine List.mem_append_right u (List.mem_append_right _ ?_)
  rcases isSome_opt.mp h with h | h
  · obtain ⟨_, rfl, h⟩ := isSome_lit.mp h
    exact List.mem_append_right _ (hg h)
  · exact hg h

theorem not_hasSlashName_iff_expand : expandPortList t = some ∅ ↔ ¬ HasSlashName t := by
  rw [expandPortList, expandList_eq_empty_iff, hasSlashName_splitOn]
  simp only [findall_iface_eq_nil_iff]
  push Not
  rfl

theorem isDigitRun_zero : IsDigitRun ['0'] := ⟨by decide, by decide⟩

/-- A name with blanks around it is one entry with one name. -/
theorem expandPortList_of_strip (h : strip t = slashName u s p) (hu : IsDigitRun u)
    (hs : IsDigitRun s) (hp : IsDigitRun p) :
    expandPortList t = (intOfDecimals p).map fun n => {n} := by
  obtain ⟨front, back, ht, hfront, hback⟩ := exists_strip t
  rw [h, List.append_assoc] at ht
  have hblank : ∀ c, isSpace c = true → c ≠ ',' := by
    rintro c hc rfl
    exact Bool.false_ne_true hc
  have hcomma : ',' ∉ t := by
    rw [ht]
    simp only [List.mem_append, not_or]
    exact ⟨fun hmem => hblank _ (hfront _ hmem) rfl,
      not_mem_slashName hu hs hp (by decide) (by decide), fun hmem => hblank _ (hback _ hmem) rfl⟩
  have hhead : NoDigitHead back := fun c hc =>
    isDecimal_of_isSpace (hback c (List.mem_of_mem_head? hc))
  have hends : finditer (fastpathIfaceRe done) t = [((u, s), p)] := by
    rw [ht, findall_name slashed_iface (fun c hc => isDecimal_of_isSpace (hfront c hc))
      slashName_ne_nil back (fastpathIfaceRe_append hu hs hp hhead rfl)]
    have hslash : '/' ∉ back := fun hmem => Bool.false_ne_true (hback '/' hmem)
    rw [findall_of_not_mem slashed_iface hslash]
  rw [expandPortList, expandList, List.splitOn_eq_singleton hcomma, List.mapM_cons, hends]
  cases t.contains '-' <;> cases hint : intOfDecimals p <;> simp [expandEntry, hint]

theorem unescape_of_strip (h : strip t = slashName u s p) (hu : IsDigitRun u) (hs : IsDigitRun s)
    (hp : IsDigitRun p) : Html.unescape named t = some t := by
  apply Html.unescape_of_not_mem
  obtain ⟨front, back, ht, hfront, hback⟩ := exists_strip t
  rw [h] at ht
  rw [ht]
  simp only [List.mem_append, not_or]
  exact ⟨⟨fun hmem => Bool.false_ne_true (hfront _ hmem),
    not_mem_slashName hu hs hp (by decide) (by decide)⟩,
    fun hmem => Bool.false_ne_true (hback _ hmem)⟩

theorem physicalAs_of_isPhysicalName (h : IsPhysicalName t) : ∃ n, PhysicalAs named t n := by
  obtain ⟨u, p, unit, port, ht, hu, hp, hunit, hport, hne⟩ := h
  have hmatch := fullmatch_iface_iff.mpr ⟨ht, hu, isDigitRun_zero, hp⟩
  have hzero : intOfDecimals ['0'] = some 0 := by decide
  refine ⟨port, ?_, ?_, ?_, ?_⟩
  · rw [m4300MacPort, hmatch]
    dsimp only
    rw [hport, Option.map_some]
  · rw [xeMacPort, hmatch]
    dsimp only
    rw [if_pos rfl, hport, Option.map_some]
  · rw [fastpathPhysicalPort, unescape_of_strip ht hu isDigitRun_zero hp, Option.bind_some,
      physicalPortOf, hmatch]
    simp [hunit, hport, hzero, hne]
  · rw [expandPortList_of_strip ht hu isDigitRun_zero hp, hport, Option.map_some]

theorem nonPhysical_of_isOtherName (h : IsOtherName named t) : NonPhysical named t := by
  obtain ⟨hno, text, htext, hsmart, hslash⟩ := h
  have hmatch : fastpathIfaceRe atEnd (strip t) = none :=
    fullmatch_iface_eq_none_iff.mpr fun u s p hu hs hp heq =>
      hno (hasSlashName_strip heq hu hs hp)
  refine ⟨?_, ?_, ?_, not_hasSlashName_iff_expand.mpr hno⟩
  · rw [m4300MacPort, hmatch]
  · rw [xeMacPort, hmatch]
  · rw [fastpathPhysicalPort, htext, Option.bind_some, physicalPortOf]
    cases hname : fastpathIfaceRe atEnd (strip text) with
    | none =>
      dsimp only
      rw [hsmart]
    | some name =>
      obtain ⟨⟨u, s⟩, p⟩ := name
      obtain ⟨heq, hu, hs, hp⟩ := fullmatch_iface_iff.mp hname
      obtain ⟨unit, slot, port, hunit, hslot, hport, hnot⟩ := hslash u s p heq hu hs hp
      have hif : ¬ (unit ≠ 0 ∧ slot = 0) := fun h => hnot.elim h.1 fun hne => hne h.2
      simp only [hunit, hslot, hport, Option.bind_eq_bind, Option.bind_some, if_neg hif]

theorem isPhysicalName_of_physicalAs {n : ℕ} (h : PhysicalAs named t n) : IsPhysicalName t := by
  obtain ⟨_, hxe, hphysical, _⟩ := h
  rw [xeMacPort] at hxe
  cases hmatch : fastpathIfaceRe atEnd (strip t) with
  | none =>
    rw [hmatch] at hxe
    cases hxe
  | some name =>
    obtain ⟨⟨u, s⟩, p⟩ := name
    obtain ⟨heq, hu, hs, hp⟩ := fullmatch_iface_iff.mp hmatch
    rw [hmatch] at hxe
    dsimp only at hxe
    split_ifs at hxe with hzero
    · rw [hzero] at heq hs hmatch
      rw [fastpathPhysicalPort, unescape_of_strip heq hu hs hp, Option.bind_some, physicalPortOf,
        hmatch] at hphysical
      simp only [Option.bind_eq_bind, Option.bind_eq_some_iff, Option.some.injEq] at hphysical
      obtain ⟨unit, hunit, slot, _, port, hport, hif⟩ := hphysical
      split_ifs at hif with hne
      exact ⟨u, p, unit, port, heq, hu, hp, hunit, hport, hne.1⟩
    · cases hxe

theorem isOtherName_of_nonPhysical (h : NonPhysical named t) : IsOtherName named t := by
  obtain ⟨_, _, hphysical, hexpand⟩ := h
  refine ⟨not_hasSlashName_iff_expand.mp hexpand, ?_⟩
  rw [fastpathPhysicalPort] at hphysical
  obtain ⟨text, htext, hport⟩ := Option.bind_eq_some_iff.mp hphysical
  rw [physicalPortOf] at hport
  refine ⟨text, htext, ?_, ?_⟩
  · rw [← Option.not_isSome_iff_eq_none]
    intro hsmart
    cases hname : fastpathIfaceRe atEnd (strip text) with
    | some name =>
      obtain ⟨⟨u, s⟩, p⟩ := name
      obtain ⟨heq, hu, hs, hp⟩ := fullmatch_iface_iff.mp hname
      have hg := mem_of_smartName hsmart
      rw [heq] at hg
      exact not_mem_slashName hu hs hp (by decide) (by decide) hg
    | none =>
      obtain ⟨p, hp⟩ := Option.isSome_iff_exists.mp hsmart
      rw [hname] at hport
      dsimp only at hport
      rw [hp] at hport
      obtain ⟨_, _, hsome⟩ := Option.map_eq_some_iff.mp hport
      cases hsome
  · intro u s p heq hu hs hp
    rw [fullmatch_iface_iff.mpr ⟨heq, hu, hs, hp⟩] at hport
    simp only [Option.bind_eq_bind, Option.bind_eq_some_iff, Option.some.injEq] at hport
    obtain ⟨unit, hunit, slot, hslot, port, hport, hif⟩ := hport
    split_ifs at hif with hne
    refine ⟨unit, slot, port, hunit, hslot, hport, ?_⟩
    by_cases hzero : unit = 0
    · exact Or.inl hzero
    · exact Or.inr fun hslot => hne ⟨hzero, hslot⟩

/-- **When the four agree.**  The four recognisers read the same port, or all of them none, and a
name of another slot than 0 or of unit 0 is no port to any of them, exactly where the stripped
text is `unit/0/port`, no unit 0, or holds no `unit/slot/port` name and is no physical name when
its character references are resolved. -/
theorem sameAttribution_iff (named : Text → Option Text) (t : Text) :
    ((NonPhysical named t ∨ ∃ n, PhysicalAs named t n) ∧
      ∀ u s p, strip t = slashName u s p → IsDigitRun u → IsDigitRun s → IsDigitRun p →
        (intOfDecimals u = some 0 ∨ ∃ slot, intOfDecimals s = some slot ∧ slot ≠ 0) →
        NonPhysical named t) ↔ IsPhysicalName t ∨ IsOtherName named t := by
  constructor
  · rintro ⟨hnon | ⟨n, hn⟩, _⟩
    · exact Or.inr (isOtherName_of_nonPhysical hnon)
    · exact Or.inl (isPhysicalName_of_physicalAs hn)
  · rintro (hphysical | hother)
    · refine ⟨Or.inr (physicalAs_of_isPhysicalName hphysical), ?_⟩
      -- the name of a physical port is neither of unit 0 nor of another slot
      intro u s p heq hu hs hp hcase
      obtain ⟨u', p', unit, port, heq', hu', hp', hunit, _, hne⟩ := hphysical
      have hname := (fullmatch_iface_iff.mpr ⟨heq, hu, hs, hp⟩).symm.trans
        (fullmatch_iface_iff.mpr ⟨heq', hu', isDigitRun_zero, hp'⟩)
      cases hname
      rcases hcase with hzero | ⟨slot, hslot, hslotne⟩
      · cases hunit.symm.trans hzero
        exact absurd rfl hne
      · have hslot0 : slot = 0 := Option.some_injective _ (hslot.symm.trans (by decide))
        exact absurd hslot0 hslotne
    · exact ⟨Or.inl (nonPhysical_of_isOtherName hother), fun _ _ _ _ _ _ _ _ =>
        nonPhysical_of_isOtherName hother⟩

/-- The service port of the real pages is port 1 to one of them. -/
theorem not_sameAttribution_service : ¬ (NonPhysical (fun _ => none) "0/15/1".toList ∨
    ∃ n, PhysicalAs (fun _ => none) "0/15/1".toList n) := by
  have hm4300 : m4300MacPort "0/15/1".toList = some (some 1) := by decide
  have hxe : xeMacPort "0/15/1".toList = some none := by decide
  rintro (⟨hnone, _⟩ | ⟨n, _, hsome, _⟩)
  · cases hm4300.symm.trans hnone
  · cases hxe.symm.trans hsome

end SameAttribution

/-! ## §7 Written lists -/

/-- What one entry of an egress list says. -/
inductive EgressItem (ν : Type)
  | single (n : ν)
  | range (lo hi : ν)
  | lag (n : ℕ)
  | lagRange (lo hi : ℕ)

/-- An entry with the blanks around it and around its dash. -/
structure EgressEntry (ν : Type) where
  item : EgressItem ν
  before : Text := []
  after : Text := []
  left : Text := []
  right : Text := []
  blank : ∀ c ∈ before ++ after ++ left ++ right, isSpace c = true

section Written

variable {ν κ : Type}

def lagName (n : ℕ) : Text := "lag ".toList ++ natText n

def EgressItem.text (name : ν → Text) (dash : Text) : EgressItem ν → Text
  | .single n => name n
  | .range lo hi => name lo ++ (dash ++ name hi)
  | .lag n => lagName n
  | .lagRange lo hi => lagName lo ++ (dash ++ lagName hi)

def EgressEntry.text (name : ν → Text) (e : EgressEntry ν) : Text :=
  e.before ++ (e.item.text name (e.left ++ '-' :: e.right) ++ e.after)

/-- The list as it is written. -/
def egressText (name : ν → Text) (es : List (EgressEntry ν)) : Text :=
  [','].intercalate (es.map (EgressEntry.text name))

/-- The ports an entry stands for. -/
def EgressItem.ports (port : ν → ℕ) : EgressItem ν → Finset ℕ
  | .single n => {port n}
  | .range lo hi => Finset.Icc (port lo) (port hi)
  | .lag _ | .lagRange _ _ => ∅

def egressPorts (port : ν → ℕ) (es : List (EgressEntry ν)) : Finset ℕ :=
  (es.map fun e => e.item.ports port).foldr (· ∪ ·) ∅

/-- A range goes up within one unit and slot, and `int` reads the numbers. -/
def EgressItem.Readable (key : ν → κ) (port : ν → ℕ) : EgressItem ν → Prop
  | .single n => (natText (port n)).length ≤ 4300
  | .range lo hi => key lo = key hi ∧ port lo ≤ port hi ∧ (natText (port lo)).length ≤ 4300 ∧
      (natText (port hi)).length ≤ 4300
  | .lag _ | .lagRange _ _ => True

/-- How the names are written and found. -/
structure Naming (name : ν → Text) (key : ν → κ) (port : ν → ℕ) (m : Rest ((κ × Text) × Text)) :
    Prop where
  slashed : Slashed m
  ne_nil : ∀ n, name n ≠ []
  comma : ∀ n, ',' ∉ name n
  found : ∀ n rest, NoDigitHead rest → m (name n ++ rest) = some ((key n, natText (port n)), rest)

variable {name : ν → Text} {key : ν → κ} {port : ν → ℕ} {m : Rest ((κ × Text) × Text)}

theorem isDecimal_of_blank {t : Text} (h : ∀ c ∈ t, isSpace c = true) :
    ∀ c ∈ t, isDecimal c = false := fun c hc => isDecimal_of_isSpace (h c hc)

theorem noDigitHead_of_forall {t : Text} (h : ∀ c ∈ t, isDecimal c = false) : NoDigitHead t :=
  fun c hc => h c (List.mem_of_mem_head? hc)

theorem not_mem_lagName {c : Char} (n : ℕ) (hlag : c ∉ "lag ".toList) (hc : isDecimal c = false) :
    c ∉ lagName n := by
  rw [lagName, List.mem_append, not_or]
  refine ⟨hlag, fun hmem => ?_⟩
  cases hc.symm.trans (isDecimal_of_isDigit (all_isDigit_natText n c hmem))

theorem findall_blank (hn : Naming name key port m) {t : Text} (h : ∀ c ∈ t, isSpace c = true) :
    finditer m t = [] :=
  findall_of_not_mem hn.slashed fun hmem => Bool.false_ne_true (h '/' hmem)

/-- What is found in an entry, and what it stands for. -/
theorem expandEntry_text [DecidableEq κ] (hn : Naming name key port m) (e : EgressEntry ν)
    (hread : e.item.Readable key port) :
    expandEntry ((e.text name).contains '-') (finditer m (e.text name)) =
      some (e.item.ports port) := by
  obtain ⟨item, before, after, left, right, blank⟩ := e
  simp only [List.forall_mem_append] at blank
  obtain ⟨⟨⟨hbefore, hafter⟩, hleft⟩, hright⟩ := blank
  have hdash : ∀ c ∈ left ++ '-' :: right, isDecimal c = false := by
    rw [List.forall_mem_append, List.forall_mem_cons]
    exact ⟨isDecimal_of_blank hleft, by decide, isDecimal_of_blank hright⟩
  have hslash : ∀ {t : Text}, (∀ c ∈ t, isSpace c = true) → '/' ∉ t := fun ht hmem =>
    Bool.false_ne_true (ht '/' hmem)
  have hend : ∀ n, finditer m (name n ++ after) = [(key n, natText (port n))] := by
    intro n
    have hfound := hn.found n after (noDigitHead_of_forall (isDecimal_of_blank hafter))
    rw [finditer_match (hn.ne_nil n) hfound, findall_blank hn hafter]
  cases item with
  | single n =>
    have hfind : finditer m (before ++ (name n ++ after)) = [(key n, natText (port n))] := by
      rw [findall_skip hn.slashed (isDecimal_of_blank hbefore), hend]
    show expandEntry _ (finditer m (before ++ (name n ++ after))) = some {port n}
    rw [hfind]
    cases (EgressEntry.text name _).contains '-' <;>
      simp [expandEntry, intOfDecimals_natText (show (natText (port n)).length ≤ 4300 from hread)]
  | range lo hi =>
    obtain ⟨hkey, hle, hlo, hhi⟩ := hread
    have htext : (EgressEntry.text name ⟨.range lo hi, before, after, left, right, by simp_all⟩) =
        before ++ (name lo ++ ((left ++ '-' :: right) ++ (name hi ++ after))) := by
      simp [EgressEntry.text, EgressItem.text]
    have hhead : NoDigitHead ((left ++ '-' :: right) ++ (name hi ++ after)) := by
      intro c hc
      rw [List.head?_append_of_ne_nil _ (by simp)] at hc
      exact hdash c (List.mem_of_mem_head? hc)
    have hfind : finditer m (before ++ (name lo ++ ((left ++ '-' :: right) ++ (name hi ++ after)))) =
        [(key lo, natText (port lo)), (key hi, natText (port hi))] := by
      rw [findall_name hn.slashed (isDecimal_of_blank hbefore) (hn.ne_nil lo) _
        (hn.found lo _ hhead), findall_skip hn.slashed hdash, hend]
    have hcontains :
        (before ++ (name lo ++ ((left ++ '-' :: right) ++ (name hi ++ after)))).contains '-' =
          true := by
      simp
    rw [htext, hfind, hcontains]
    simp only [expandEntry, intOfDecimals_natText hlo, intOfDecimals_natText hhi,
      Option.bind_eq_bind, Option.bind_some, hkey, true_and, if_pos hle]
    rfl
  | lag n =>
    have hnone : finditer m (EgressEntry.text name ⟨.lag n, before, after, left, right,
        by simp_all⟩) = [] := by
      apply findall_of_not_mem hn.slashed
      simp only [EgressEntry.text, EgressItem.text, List.mem_append, not_or]
      exact ⟨hslash hbefore, not_mem_lagName n (by decide) (by decide), hslash hafter⟩
    rw [hnone, expandEntry_nil]
    rfl
  | lagRange lo hi =>
    have hnone : finditer m (EgressEntry.text name ⟨.lagRange lo hi, before, after, left, right,
        by simp_all⟩) = [] := by
      apply findall_of_not_mem hn.slashed
      simp only [EgressEntry.text, EgressItem.text, List.mem_append, List.mem_cons, not_or]
      exact ⟨hslash hbefore, ⟨not_mem_lagName lo (by decide) (by decide),
        ⟨hslash hleft, by decide, hslash hright⟩, not_mem_lagName hi (by decide) (by decide)⟩,
        hslash hafter⟩
    rw [hnone, expandEntry_nil]
    rfl

theorem comma_not_mem_text (hn : Naming name key port m) (e : EgressEntry ν) :
    ',' ∉ e.text name := by
  obtain ⟨item, before, after, left, right, blank⟩ := e
  simp only [List.forall_mem_append] at blank
  obtain ⟨⟨⟨hbefore, hafter⟩, hleft⟩, hright⟩ := blank
  have hcomma : ∀ {t : Text}, (∀ c ∈ t, isSpace c = true) → ',' ∉ t := fun ht hmem =>
    Bool.false_ne_true (ht ',' hmem)
  have hlag : ∀ n, ',' ∉ lagName n := fun n => not_mem_lagName n (by decide) (by decide)
  cases item <;>
    simp [EgressEntry.text, EgressItem.text, hcomma hbefore, hcomma hafter, hcomma hleft,
      hcomma hright, hn.comma, hlag]

/-- A written list is read back, whatever its names look like. -/
theorem expandList_egressText [DecidableEq κ] (hn : Naming name key port m)
    (es : List (EgressEntry ν)) (hread : ∀ e ∈ es, e.item.Readable key port) :
    expandList (finditer m) (egressText name es) = some (egressPorts port es) := by
  cases es with
  | nil =>
    have hnil : finditer m [] = [] := findall_of_not_mem hn.slashed List.not_mem_nil
    refine expandList_eq_empty_iff.mpr fun part hpart => ?_
    rw [egressText, List.map_nil, List.intercalate_nil, List.splitOn_nil] at hpart
    rw [List.mem_singleton.mp hpart, hnil]
  | cons e es =>
    refine expandList_eq_some ?_
    have hsplit : (egressText name (e :: es)).splitOn ',' =
        (e :: es).map (EgressEntry.text name) := by
      refine List.splitOn_intercalate ',' ?_ (by simp)
      intro t ht
      obtain ⟨d, _, rfl⟩ := List.mem_map.mp ht
      exact comma_not_mem_text hn d
    rw [hsplit, List.forall₂_map_left_iff, List.forall₂_map_right_iff, List.forall₂_same]
    intro d hd
    exact expandEntry_text hn d (hread d hd)

end Written

/-- A port of a unit and a slot, written `unit/slot/port`. -/
structure SlashPort where
  unit : ℕ
  slot : ℕ
  port : ℕ

def SlashPort.name (n : SlashPort) : Text :=
  slashName (natText n.unit) (natText n.slot) (natText n.port)

def SlashPort.key (n : SlashPort) : Text × Text := (natText n.unit, natText n.slot)

/-- A port of the S3300, written `1/gN` or `1/xgN`. -/
structure SmartPort where
  uplink : Bool
  port : ℕ

def SmartPort.name (n : SmartPort) : Text :=
  "1/".toList ++ ((if n.uplink then ['x'] else []) ++ 'g' :: natText n.port)

theorem naming_slashPort :
    Naming SlashPort.name SlashPort.key SlashPort.port (fastpathIfaceRe done) where
  slashed := slashed_iface
  ne_nil _ := slashName_ne_nil
  comma _ := not_mem_slashName (isDigitRun_natText _) (isDigitRun_natText _) (isDigitRun_natText _)
    (by decide) (by decide)
  found _ _ hrest := fastpathIfaceRe_append (isDigitRun_natText _) (isDigitRun_natText _)
    (isDigitRun_natText _) hrest rfl

theorem naming_smartPort :
    Naming SmartPort.name (fun _ => ()) SmartPort.port (xeSmartIfaceRe done) where
  slashed := slashed_smart
  ne_nil n := by simp [SmartPort.name]
  comma n := by
    have hdigits : ',' ∉ natText n.port := fun hmem => by
      cases (show isDigit ',' = false from by decide).symm.trans (all_isDigit_natText n.port _ hmem)
    cases hx : n.uplink <;> simp [SmartPort.name, hx, hdigits]
  found n rest hrest := by
    obtain ⟨uplink, port⟩ := n
    have hport := many1_digits (k := fun p => done (((), p) : Unit × Text))
      (isDigitRun_natText port) hrest rfl
    have hg := lit_append "g" (natText port ++ rest)
      (many1 isDecimal fun p => done (((), p) : Unit × Text))
    rw [SmartPort.name, List.append_assoc, xeSmartIfaceRe, lit_append]
    cases uplink with
    | true =>
      have hx := lit_append "x" ('g' :: (natText port ++ rest))
        (lit "g" (many1 isDecimal fun p => done (((), p) : Unit × Text)))
      show ((lit "x" _ ("x".toList ++ 'g' :: (natText port ++ rest))).orElse _) = _
      rw [hx]
      exact congrArg (Option.orElse · _) (hg.trans hport)
    | false =>
      have hx : lit "x" (lit "g" (many1 isDecimal fun p => done (((), p) : Unit × Text)))
          ('g' :: (natText port ++ rest)) = none := rfl
      show ((lit "x" _ ('g' :: (natText port ++ rest))).orElse _) = _
      rw [hx]
      exact hg.trans hport

/-- **Every written list is read back.**  An egress list of single names, ascending ranges within
one unit and slot and `lag` entries, in any order and with any blanks around its commas and
dashes, stands for exactly the ports it names. -/
theorem expandPortList_egressText :
    (∀ es : List (EgressEntry SlashPort),
      (∀ e ∈ es, e.item.Readable SlashPort.key SlashPort.port) →
        expandPortList (egressText SlashPort.name es) = some (egressPorts SlashPort.port es)) ∧
      ∀ es : List (EgressEntry SmartPort),
        (∀ e ∈ es, e.item.Readable (fun _ => ()) SmartPort.port) →
          expandS3300PortList (egressText SmartPort.name es) =
            some (egressPorts SmartPort.port es) :=
  ⟨expandList_egressText naming_slashPort, expandList_egressText naming_smartPort⟩

/-- Port 7 in a range with its neighbour, after a LAG. -/
theorem expandPortList_egressText_lag :
    expandPortList (egressText SlashPort.name
      [⟨.lag 3, [], [], [], [], by decide⟩,
        ⟨.range ⟨1, 0, 7⟩ ⟨1, 0, 8⟩, [' '], [], [' '], [' '], by decide⟩]) =
      some (egressPorts SlashPort.port
        [⟨.lag 3, [], [], [], [], by decide⟩,
          ⟨.range ⟨1, 0, 7⟩ ⟨1, 0, 8⟩, [' '], [], [' '], [' '], by decide⟩]) := by
  refine expandPortList_egressText.1 _ ?_
  rintro e he
  rcases List.mem_cons.mp he with rfl | he
  · exact trivial
  · have hdigits : ∀ n < 10 ^ 2, (natText n).length ≤ 4300 := fun n hn =>
      (length_natText_le (by decide) hn).trans (by decide)
    rw [List.mem_singleton.mp he]
    exact ⟨rfl, by decide, hdigits 7 (by decide), hdigits 8 (by decide)⟩

/-- A port number that `int` refuses. -/
theorem expandPortList_eq_none (n : SlashPort) (h : 10 ^ 4300 ≤ n.port) :
    expandPortList n.name = none := by
  have hspace : ∀ c ∈ n.name, isSpace c = false := by
    intro c hc
    rw [← Bool.not_eq_true]
    intro hspace
    refine not_mem_slashName (isDigitRun_natText n.unit) (isDigitRun_natText n.slot)
      (isDigitRun_natText n.port) ?_ (isDecimal_of_isSpace hspace) hc
    rintro rfl
    exact Bool.false_ne_true hspace
  have hstrip : strip n.name = slashName (natText n.unit) (natText n.slot) (natText n.port) :=
    strip_of_not_isSpace hspace
  rw [expandPortList_of_strip hstrip (isDigitRun_natText n.unit) (isDigitRun_natText n.slot)
    (isDigitRun_natText n.port), intOfDecimals, if_pos (lt_length_natText h), Option.map_none]

/-- A port number of 4301 digits. -/
theorem not_expandPortList_huge :
    expandPortList (SlashPort.name ⟨1, 0, 10 ^ 4300⟩) ≠ some {10 ^ 4300} := by
  rw [expandPortList_eq_none ⟨1, 0, 10 ^ 4300⟩ (le_refl _)]
  exact (Option.some_ne_none _).symm

end NetgearSwitch.Http
