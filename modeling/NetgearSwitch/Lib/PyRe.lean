import NetgearSwitch.Lib.PyText

/-!
# Regular expressions by backtracking

The pieces of a pattern in the style of the `re` module.  A piece is given what the rest of the
pattern makes of the text left over, tries its ways of matching in the order the backtracking
matcher tries them, and answers the first way the rest accepts.  A pattern is then written
piece by piece in the order of its source, and what it captures is what its last piece returns.

`IGNORECASE` folds ASCII letters, `\d` is an ASCII digit and `\w` an ASCII letter, digit or
underscore.
-/

namespace PyRe

variable {α : Type}

/-- What the rest of a pattern makes of the text left over. -/
abbrev Rest (α : Type) := Text → Option α

/-! ## §1 Pieces -/

/-- Same character. -/
def same (c d : Char) : Bool := c == d

/-- Same character up to ASCII case. -/
def sameFold (c d : Char) : Bool := c.toLower == d.toLower

/-- Take the word `w` off the front of a text. -/
def takeWord (eqv : Char → Char → Bool) : Text → Text → Option Text
  | [], s => some s
  | _ :: _, [] => none
  | c :: w, d :: s => if eqv c d then takeWord eqv w s else none

/-- The word `w`. -/
def lit (w : String) (k : Rest α) : Rest α := fun s => (takeWord same w.toList s).bind k

/-- The word `w` under `IGNORECASE`. -/
def litI (w : String) (k : Rest α) : Rest α := fun s => (takeWord sameFold w.toList s).bind k

/-- `(p*)`: as many characters as there are, then fewer. -/
def many (p : Char → Bool) : (Text → Rest α) → Rest α
  | k, [] => k [] []
  | k, c :: s =>
    if p c then (many p (fun w => k (c :: w)) s).orElse fun _ => k [] (c :: s) else k [] (c :: s)

/-- `(p*?)`: no character, then more. -/
def manyLazy (p : Char → Bool) : (Text → Rest α) → Rest α
  | k, [] => k [] []
  | k, c :: s =>
    (k [] (c :: s)).orElse fun _ => if p c then manyLazy p (fun w => k (c :: w)) s else none

/-- `(p+)`. -/
def many1 (p : Char → Bool) (k : Text → Rest α) : Rest α :=
  many p fun w s => if w.isEmpty then none else k w s

/-- `(p+?)`. -/
def many1Lazy (p : Char → Bool) (k : Text → Rest α) : Rest α :=
  manyLazy p fun w s => if w.isEmpty then none else k w s

/-- `(m)?`. -/
def opt (m : Rest α → Rest α) (k : Rest α) : Rest α := fun s => (m k s).orElse fun _ => k s

/-- `(?:m|n)`. -/
def alt (m n : Rest α) : Rest α := fun s => (m s).orElse fun _ => n s

/-- `([cs])`: one character of a class. -/
def one (p : Char → Bool) (k : Char → Rest α) : Rest α
  | [] => none
  | c :: s => if p c then k c s else none

/-- `\w` -/
def isWord (c : Char) : Bool := c.isAlphanum || c == '_'

/-- The pattern is at its end: answer the captures and the text left over. -/
def done (a : α) : Rest (α × Text) := fun s => some (a, s)

/-- The pattern is at its end and so is the text, as `fullmatch` asks. -/
def atEnd (a : α) : Rest α
  | [] => some a
  | _ :: _ => none

/-! ## §2 Searching -/

/-- `search`: the first place of the text where the pattern matches. -/
def search (m : Rest α) : Rest α
  | [] => m []
  | c :: s => (m (c :: s)).orElse fun _ => search m s

/-- `t.find(w)`, where it is found. -/
def find (w : Text) : Text → Option ℕ
  | [] => if w.isEmpty then some 0 else none
  | c :: s => if (takeWord same w (c :: s)).isSome then some 0 else (find w s).map (· + 1)

/-- `w in t`. -/
def occurs (w t : Text) : Bool := (find w t).isSome

/-- The matches after the next `skip` characters. -/
private def finditerFrom (m : Rest (α × Text)) : ℕ → Text → List α
  | _, [] => []
  | skip + 1, _ :: s => finditerFrom m skip s
  | 0, c :: s =>
    match m (c :: s) with
    | some (a, left) => a :: finditerFrom m (s.length - left.length) s
    | none => finditerFrom m 0 s

/-- `finditer`: the matches that do not overlap, from left to right, of a pattern that matches
no empty text. -/
def finditer (m : Rest (α × Text)) (s : Text) : List α := finditerFrom m 0 s

/-- The text after the next `skip` characters, every match in it replaced. -/
private def subFrom (m : Rest (Text × Text)) : ℕ → Text → Text
  | _, [] => []
  | skip + 1, _ :: s => subFrom m skip s
  | 0, c :: s =>
    match m (c :: s) with
    | some (a, left) => a ++ subFrom m (s.length - left.length) s
    | none => c :: subFrom m 0 s

/-- `sub`: every match replaced by the text the pattern answers for it. -/
def sub (m : Rest (Text × Text)) (s : Text) : Text := subFrom m 0 s

/-! ## §3 Matching at the front -/

section Front

variable {eqv : Char → Char → Bool} {p : Char → Bool}

theorem takeWord_append {v w r : Text} (s : Text) (h : takeWord eqv v w = some r) :
    takeWord eqv v (w ++ s) = some (r ++ s) := by
  induction v generalizing w with
  | nil =>
    simp only [takeWord, Option.some.injEq] at h
    simp [takeWord, h]
  | cons c v ih =>
    cases w with
    | nil => simp [takeWord] at h
    | cons d w =>
      by_cases hcd : eqv c d = true
      · simp only [takeWord, hcd, if_true] at h
        simpa [takeWord, hcd] using ih h
      · simp [takeWord, hcd] at h

theorem takeWord_same (w s : Text) : takeWord same w (w ++ s) = some s := by
  induction w with
  | nil => rfl
  | cons c w ih => simpa [takeWord, same] using ih

@[simp] theorem lit_append (w : String) (s : Text) (k : Rest α) :
    lit w k (w.toList ++ s) = k s := by
  simp [lit, takeWord_same]

/-- A greedy run stops at the first character outside its class, if the rest accepts there. -/
theorem many_span {w s : Text} {d : Char} {k : Text → Rest α} {a : α} (hw : ∀ c ∈ w, p c = true)
    (hd : p d = false) (hk : k w (d :: s) = some a) : many p k (w ++ d :: s) = some a := by
  induction w generalizing k with
  | nil => simpa [many, hd] using hk
  | cons c w ih =>
    have htail := ih (k := fun u => k (c :: u)) (fun e he => hw e (List.mem_cons_of_mem _ he)) hk
    simp [many, hw c List.mem_cons_self, htail]

/-- A greedy run to the end of the text. -/
theorem many1_all {w : Text} {k : Text → Rest α} {a : α} (hne : w ≠ []) (hw : ∀ c ∈ w, p c = true)
    (hk : k w [] = some a) : many1 p k w = some a := by
  have hmany : ∀ (w : Text) (k : Text → Rest α), (∀ c ∈ w, p c = true) → k w [] = some a →
      many p k w = some a := by
    intro w
    induction w with
    | nil => exact fun k _ hk => hk
    | cons c w ih =>
      intro k hw hk
      have htail := ih (fun u => k (c :: u)) (fun e he => hw e (List.mem_cons_of_mem _ he)) hk
      simp [many, hw c List.mem_cons_self, htail]
  refine hmany w _ hw ?_
  simpa [hne] using hk

theorem many1_span {w s : Text} {d : Char} {k : Text → Rest α} {a : α} (hne : w ≠ [])
    (hw : ∀ c ∈ w, p c = true) (hd : p d = false) (hk : k w (d :: s) = some a) :
    many1 p k (w ++ d :: s) = some a := by
  refine many_span hw hd ?_
  simpa [hne] using hk

theorem search_here {s : Text} {m : Rest α} {a : α} (h : m s = some a) : search m s = some a := by
  cases s <;> simp [search, h]

end Front

/-! ## §4 Text a pattern passes over -/

section Clear

variable {eqv : Char → Char → Bool}

/-- Do `v` and `u` differ at a place both of them have? -/
def mismatch (eqv : Char → Char → Bool) : Text → Text → Bool
  | c :: v, d :: u => !eqv c d || mismatch eqv v u
  | _, _ => false

/-- The word `v` starts nowhere in the text, whatever follows it. -/
def clear (eqv : Char → Char → Bool) (v : Text) : Text → Bool
  | [] => true
  | c :: u => mismatch eqv v (c :: u) && clear eqv v u

theorem takeWord_eq_none {v u : Text} (s : Text) (h : mismatch eqv v u = true) :
    takeWord eqv v (u ++ s) = none := by
  induction v generalizing u with
  | nil => simp [mismatch] at h
  | cons c v ih =>
    cases u with
    | nil => simp [mismatch] at h
    | cons d u =>
      by_cases hcd : eqv c d = true
      · have htail : mismatch eqv v u = true := by simpa [mismatch, hcd] using h
        simpa [takeWord, hcd] using ih htail
      · simp [takeWord, hcd]

theorem mismatch_append {v u : Text} (s : Text) (h : mismatch eqv v u = true) :
    mismatch eqv v (u ++ s) = true := by
  induction v generalizing u with
  | nil => simp [mismatch] at h
  | cons c v ih =>
    cases u with
    | nil => simp [mismatch] at h
    | cons d u =>
      simp only [mismatch, Bool.or_eq_true] at h
      rcases h with h | h
      · simp [mismatch, h]
      · simp [mismatch, ih h]

theorem clear_append {v t u : Text} (ht : clear eqv v t = true) (hu : clear eqv v u = true) :
    clear eqv v (t ++ u) = true := by
  induction t with
  | nil => exact hu
  | cons c t ih =>
    simp only [clear, Bool.and_eq_true] at ht
    simp only [List.cons_append, clear, Bool.and_eq_true]
    exact ⟨mismatch_append u ht.1, ih ht.2⟩

theorem clear_flatten {v : Text} {ts : List Text} (h : ∀ t ∈ ts, clear eqv v t = true) :
    clear eqv v ts.flatten = true := by
  induction ts with
  | nil => rfl
  | cons t ts ih =>
    exact clear_append (h t List.mem_cons_self)
      (ih fun u hu => h u (List.mem_cons_of_mem _ hu))

/-- A text without the word's first character is clear of the word. -/
theorem clear_of_head {c : Char} {v t : Text} (h : ∀ d ∈ t, eqv c d = false) :
    clear eqv (c :: v) t = true := by
  induction t with
  | nil => rfl
  | cons d t ih =>
    simp only [clear, Bool.and_eq_true]
    exact ⟨by simp [mismatch, h d List.mem_cons_self],
      ih fun e he => h e (List.mem_cons_of_mem _ he)⟩

/-- A pattern that starts with the word `v`. -/
def StartsWith (eqv : Char → Char → Bool) (v : Text) (m : Rest α) : Prop :=
  ∀ s, takeWord eqv v s = none → m s = none

theorem startsWith_lit (v : String) (k : Rest α) : StartsWith same v.toList (lit v k) := by
  intro s h
  simp [lit, h]

theorem find_clear {w t : Text} (s : Text) (ht : clear same w t = true) :
    find w (t ++ s) = (find w s).map (· + t.length) := by
  induction t with
  | nil => simp
  | cons c t ih =>
    simp only [clear, Bool.and_eq_true] at ht
    have hhead : takeWord same w (c :: (t ++ s)) = none := takeWord_eq_none s ht.1
    rw [List.cons_append, find, hhead, ih ht.2, if_neg (by simp), Option.map_map]
    refine congrArg (Option.map · (find w s)) (funext fun n => ?_)
    simp [Nat.add_assoc]

/-- A word is found at its first occurrence. -/
theorem find_append {w t : Text} (s : Text) (hne : w ≠ []) (ht : clear same w t = true) :
    find w (t ++ (w ++ s)) = some t.length := by
  have hhere : find w (w ++ s) = some 0 := by
    obtain ⟨c, v, rfl⟩ := List.exists_cons_of_ne_nil hne
    rw [List.cons_append, find, ← List.cons_append, takeWord_same]
    rfl
  rw [find_clear _ ht, hhere, Option.map_some, Nat.zero_add]

theorem occurs_of_clear {w t : Text} (hne : w ≠ []) (ht : clear same w t = true) :
    occurs w t = false := by
  have hfind := find_clear [] ht
  rw [List.append_nil] at hfind
  rw [occurs, hfind, find, if_neg (by simpa using hne)]
  rfl

theorem search_clear {m : Rest α} {v t : Text} (s : Text) (hm : StartsWith eqv v m)
    (ht : clear eqv v t = true) : search m (t ++ s) = search m s := by
  induction t with
  | nil => rfl
  | cons c t ih =>
    simp only [clear, Bool.and_eq_true] at ht
    have hhead : m (c :: (t ++ s)) = none := hm _ (takeWord_eq_none s ht.1)
    simpa [search, hhead] using ih ht.2

private theorem finditerFrom_length (m : Rest (α × Text)) (w s : Text) :
    finditerFrom m w.length (w ++ s) = finditerFrom m 0 s := by
  induction w with
  | nil => rfl
  | cons c w ih => simpa [finditerFrom] using ih

/-- Nothing is found in a text the pattern matches nowhere, whatever stands behind the text. -/
theorem finditer_append {m : Rest (α × Text)} {t : Text} (s : Text)
    (ht : ∀ u v, t = u ++ v → v ≠ [] → m (v ++ s) = none) :
    finditer m (t ++ s) = finditer m s := by
  induction t with
  | nil => rfl
  | cons c t ih =>
    have hhead : m (c :: (t ++ s)) = none := ht [] (c :: t) rfl (List.cons_ne_nil c t)
    have htail := ih fun u v huv hv => ht (c :: u) v (by rw [huv, List.cons_append]) hv
    simpa [finditer, finditerFrom, hhead] using htail

/-- Nothing is found exactly where the pattern matches at no place of the text. -/
theorem finditer_eq_nil_iff {m : Rest (α × Text)} {t : Text} :
    finditer m t = [] ↔ ∀ u v, t = u ++ v → v ≠ [] → m v = none := by
  constructor
  · intro h u v huv hv
    induction t generalizing u with
    | nil => exact absurd (List.append_eq_nil_iff.mp huv.symm).2 hv
    | cons c t ih =>
      cases hhead : m (c :: t) with
      | some a => simp [finditer, finditerFrom, hhead] at h
      | none =>
        simp only [finditer, finditerFrom, hhead] at h
        cases u with
        | nil =>
          rw [List.nil_append] at huv
          rw [← huv, hhead]
        | cons d u => exact ih h u (List.cons.inj huv).2
  · intro h
    have hskip := finditer_append (m := m) (t := t) [] fun u v huv hv => by
      rw [List.append_nil]
      exact h u v huv hv
    rw [List.append_nil] at hskip
    rw [hskip]
    rfl

/-- A text the pattern matches nowhere is left as it is. -/
theorem sub_of_forall {m : Rest (Text × Text)} {t : Text}
    (ht : ∀ u v, t = u ++ v → v ≠ [] → m v = none) : sub m t = t := by
  induction t with
  | nil => rfl
  | cons c t ih =>
    have hhead : m (c :: t) = none := ht [] (c :: t) rfl (List.cons_ne_nil c t)
    have htail := ih fun u v huv hv => ht (c :: u) v (by rw [huv, List.cons_append]) hv
    simpa [sub, subFrom, hhead] using htail

/-- A match at the front is the first one found. -/
theorem finditer_match {m : Rest (α × Text)} {w s : Text} {a : α} (hw : w ≠ [])
    (h : m (w ++ s) = some (a, s)) : finditer m (w ++ s) = a :: finditer m s := by
  cases w with
  | nil => exact absurd rfl hw
  | cons c w =>
    have hlen : (w ++ s).length - s.length = w.length := by simp
    rw [List.cons_append] at h
    simp only [finditer, List.cons_append, finditerFrom, h, hlen, finditerFrom_length]

/-- A greedy run up to a word finds none in a text that is clear of the word. -/
theorem many_eq_none {p : Char → Bool} {m : Text → Rest α} {v w : Text} {d : Char} (s : Text)
    (hm : ∀ u, StartsWith eqv v (m u)) (hd : p d = false) (hw : clear eqv v (w ++ [d]) = true) :
    many p m (w ++ d :: s) = none := by
  induction w generalizing m with
  | nil =>
    simp only [List.nil_append, clear, Bool.and_eq_true] at hw
    have hhere : m [] (d :: s) = none := hm [] _ (takeWord_eq_none s hw.1)
    simp [many, hd, hhere]
  | cons c w ih =>
    simp only [List.cons_append, clear, Bool.and_eq_true] at hw
    have hhead : m [] (c :: (w ++ d :: s)) = none := by
      have hfront := hm [] _ (takeWord_eq_none s hw.1)
      simpa using hfront
    have htail := ih (m := fun u => m (c :: u)) (fun u => hm (c :: u)) hw.2
    by_cases hc : p c = true
    · simp [many, hc, htail, hhead]
    · simp [many, hc, hhead]

/-- A greedy run goes back to the last place where the rest matches. -/
theorem many_last {p : Char → Bool} {m : Text → Rest α} {w s : Text} {c : Char} {a : α}
    (hw : ∀ e ∈ w, p e = true) (h : m w (c :: s) = some a)
    (hlater : many p (fun u => m (w ++ c :: u)) s = none) : many p m (w ++ c :: s) = some a := by
  induction w generalizing m with
  | nil =>
    simp only [List.nil_append] at hlater
    by_cases hc : p c = true
    · simp [many, hc, hlater, h]
    · simp [many, hc, h]
  | cons e w ih =>
    have htail := ih (m := fun u => m (e :: u)) (fun e' he' => hw e' (List.mem_cons_of_mem _ he'))
      h hlater
    simp [many, hw e List.mem_cons_self, htail]

end Clear

/-! ## §5 What a pattern matches -/

section Matches

variable {p : Char → Bool}

private theorem isSome_orElse {o : Option α} {f : Unit → Option α} :
    (o.orElse f).isSome = true ↔ o.isSome = true ∨ (f ()).isSome = true := by
  cases o <;> simp

/-- A greedy run matches where the rest matches after some run of the class. -/
theorem isSome_many {k : Text → Rest α} {s : Text} : (many p k s).isSome = true ↔
    ∃ w r, s = w ++ r ∧ (∀ c ∈ w, p c = true) ∧ (k w r).isSome = true := by
  induction s generalizing k with
  | nil =>
    constructor
    · intro h
      exact ⟨[], [], rfl, nofun, h⟩
    · rintro ⟨w, r, hs, _, h⟩
      obtain ⟨rfl, rfl⟩ := List.append_eq_nil_iff.mp hs.symm
      exact h
  | cons c s ih =>
    have hrun := @ih fun w => k (c :: w)
    by_cases hc : p c = true
    · rw [many, if_pos hc, isSome_orElse, hrun]
      constructor
      · rintro (⟨w, r, rfl, hw, h⟩ | h)
        · exact ⟨c :: w, r, rfl, List.forall_mem_cons.mpr ⟨hc, hw⟩, h⟩
        · exact ⟨[], c :: s, rfl, nofun, h⟩
      · rintro ⟨w, r, hs, hw, h⟩
        cases w with
        | nil =>
          rw [List.nil_append] at hs
          exact Or.inr (hs ▸ h)
        | cons d w =>
          obtain ⟨rfl, rfl⟩ := List.cons.inj hs
          exact Or.inl ⟨w, r, rfl, fun e he => hw e (List.mem_cons_of_mem _ he), h⟩
    · rw [many, if_neg hc]
      constructor
      · intro h
        exact ⟨[], c :: s, rfl, nofun, h⟩
      · rintro ⟨w, r, hs, hw, h⟩
        cases w with
        | nil =>
          rw [List.nil_append] at hs
          exact hs ▸ h
        | cons d w =>
          obtain ⟨rfl, rfl⟩ := List.cons.inj hs
          exact absurd (hw _ List.mem_cons_self) hc

theorem isSome_many1 {k : Text → Rest α} {s : Text} : (many1 p k s).isSome = true ↔
    ∃ w r, s = w ++ r ∧ w ≠ [] ∧ (∀ c ∈ w, p c = true) ∧ (k w r).isSome = true := by
  rw [many1, isSome_many]
  constructor
  · rintro ⟨w, r, rfl, hw, h⟩
    cases w with
    | nil => cases h
    | cons c w => exact ⟨c :: w, r, rfl, List.cons_ne_nil c w, hw, h⟩
  · rintro ⟨w, r, rfl, hne, hw, h⟩
    refine ⟨w, r, rfl, hw, ?_⟩
    rwa [if_neg (by simpa using hne)]

theorem isSome_one {k : Char → Rest α} {s : Text} : (one p k s).isSome = true ↔
    ∃ c r, s = c :: r ∧ p c = true ∧ (k c r).isSome = true := by
  cases s with
  | nil => simp [one]
  | cons c s =>
    by_cases hc : p c = true
    · simp [one, hc]
    · simp [one, hc]

theorem isSome_atEnd {a : α} {s : Text} : (atEnd a s).isSome = true ↔ s = [] := by
  cases s <;> simp [atEnd]

theorem takeWord_same_eq_some {w s r : Text} : takeWord same w s = some r ↔ s = w ++ r := by
  induction w generalizing s with
  | nil => simp [takeWord]
  | cons c w ih =>
    cases s with
    | nil => simp [takeWord]
    | cons d s =>
      by_cases hcd : c = d
      · simp [takeWord, same, hcd, ih]
      · simp [takeWord, same, hcd, Ne.symm hcd]

/-- A word that is found stands in the text. -/
theorem occurs_iff {w t : Text} (hne : w ≠ []) : occurs w t = true ↔ w <:+: t := by
  induction t with
  | nil => simp [occurs, find, hne]
  | cons c t ih =>
    rw [List.infix_cons_iff, ← ih, occurs, find]
    by_cases hw : (takeWord same w (c :: t)).isSome = true
    · obtain ⟨r, hr⟩ := Option.isSome_iff_exists.mp hw
      rw [if_pos hw]
      exact ⟨fun _ => Or.inl ⟨r, (takeWord_same_eq_some.mp hr).symm⟩, fun _ => rfl⟩
    · rw [if_neg hw, Option.isSome_map]
      refine ⟨Or.inr, fun h => h.resolve_left ?_⟩
      rintro ⟨r, hr⟩
      exact hw (by rw [takeWord_same_eq_some.mpr hr.symm]; rfl)

/-- A word stands on one side of a character it does not have. -/
theorem occurs_append_cons {w : Text} {c : Char} (hne : w ≠ []) (hc : c ∉ w) (a b : Text) :
    occurs w (a ++ c :: b) = (occurs w a || occurs w b) := by
  rw [Bool.eq_iff_iff, Bool.or_eq_true, occurs_iff hne, occurs_iff hne, occurs_iff hne]
  constructor
  · intro h
    rcases List.infix_append_iff.mp h with ha | hcb | ⟨l, r, rfl, hl, hr⟩
    · exact Or.inl ha
    · rcases List.infix_cons_iff.mp hcb with hprefix | hb
      · exact absurd ((List.prefix_cons_iff.mp hprefix).resolve_left hne) (by
          rintro ⟨l, rfl, -⟩
          exact hc List.mem_cons_self)
      · exact Or.inr hb
    · rcases List.prefix_cons_iff.mp hr with rfl | ⟨l', rfl, -⟩
      · rw [List.append_nil]
        exact Or.inl hl.isInfix
      · exact absurd (List.mem_append_right l List.mem_cons_self) hc
  · rintro (ha | hb)
    · exact ha.trans (List.prefix_append a _).isInfix
    · exact (hb.trans (List.suffix_cons c b).isInfix).trans (List.suffix_append a _).isInfix

theorem isSome_lit {w : String} {k : Rest α} {s : Text} : (lit w k s).isSome = true ↔
    ∃ r, s = w.toList ++ r ∧ (k r).isSome = true := by
  rw [lit, Option.isSome_bind, Option.any_eq_true]
  simp only [takeWord_same_eq_some]

theorem isSome_opt {m : Rest α → Rest α} {k : Rest α} {s : Text} : (opt m k s).isSome = true ↔
    (m k s).isSome = true ∨ (k s).isSome = true := by
  rw [opt, isSome_orElse]

theorem isSome_search {m : Rest α} {s : Text} : (search m s).isSome = true ↔
    ∃ a b, s = a ++ b ∧ (m b).isSome = true := by
  induction s with
  | nil =>
    constructor
    · intro h
      exact ⟨[], [], rfl, h⟩
    · rintro ⟨a, b, hs, h⟩
      obtain ⟨rfl, rfl⟩ := List.append_eq_nil_iff.mp hs.symm
      exact h
  | cons c s ih =>
    rw [search, isSome_orElse, ih]
    constructor
    · rintro (h | ⟨a, b, rfl, h⟩)
      · exact ⟨[], c :: s, rfl, h⟩
      · exact ⟨c :: a, b, rfl, h⟩
    · rintro ⟨a, b, hs, h⟩
      cases a with
      | nil =>
        rw [List.nil_append] at hs
        exact Or.inl (hs ▸ h)
      | cons d a =>
        obtain ⟨rfl, rfl⟩ := List.cons.inj hs
        exact Or.inr ⟨a, b, rfl, h⟩

/-- What is found in a text is found in every text that ends with it. -/
theorem isSome_search_append {m : Rest α} (a : Text) {s : Text}
    (h : (search m s).isSome = true) : (search m (a ++ s)).isSome = true := by
  obtain ⟨b, t, rfl, ht⟩ := isSome_search.mp h
  exact isSome_search.mpr ⟨a ++ b, t, (List.append_assoc a b t).symm, ht⟩

/-- A pattern that looks at nothing behind what it matches. -/
def Open (m : Rest α) : Prop := ∀ s b, (m s).isSome = true → (m (s ++ b)).isSome = true

theorem open_lit (w : String) {k : Rest α} (hk : Open k) : Open (lit w k) := by
  intro s b h
  obtain ⟨r, rfl, hr⟩ := isSome_lit.mp h
  exact isSome_lit.mpr ⟨r ++ b, List.append_assoc _ _ _, hk r b hr⟩

theorem open_one {k : Char → Rest α} (hk : ∀ c, Open (k c)) : Open (one p k) := by
  intro s b h
  obtain ⟨c, r, rfl, hc, hr⟩ := isSome_one.mp h
  exact isSome_one.mpr ⟨c, r ++ b, rfl, hc, hk c r b hr⟩

/-- A longer run may be taken for the text behind, but the shorter one is tried as well. -/
theorem open_many {k : Text → Rest α} (hk : ∀ w, Open (k w)) : Open (many p k) := by
  intro s b h
  obtain ⟨w, r, rfl, hw, hr⟩ := isSome_many.mp h
  exact isSome_many.mpr ⟨w, r ++ b, List.append_assoc _ _ _, hw, hk w r b hr⟩

theorem open_litI (w : String) {k : Rest α} (hk : Open k) : Open (litI w k) := by
  intro s b h
  rw [litI, Option.isSome_bind, Option.any_eq_true] at h ⊢
  obtain ⟨r, hr, hkr⟩ := h
  exact ⟨r ++ b, takeWord_append b hr, hk r b hkr⟩

theorem open_alt {m n : Rest α} (hm : Open m) (hn : Open n) : Open (alt m n) := by
  intro s b h
  rw [alt, isSome_orElse] at h ⊢
  exact h.imp (hm s b) (hn s b)

/-- What an open pattern finds in a part of a text it finds in the text. -/
theorem isSome_search_infix {m : Rest α} (hm : Open m) {s t : Text} (hst : s <:+: t)
    (h : (search m s).isSome = true) : (search m t).isSome = true := by
  obtain ⟨front, back, rfl⟩ := hst
  obtain ⟨a, b, rfl, hb⟩ := isSome_search.mp h
  exact isSome_search.mpr ⟨front ++ a, b ++ back, by simp, hm b back hb⟩

end Matches

end PyRe
