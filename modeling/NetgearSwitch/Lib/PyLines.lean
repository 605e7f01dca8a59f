import Mathlib.Data.List.TakeWhile
import NetgearSwitch.Lib.PyText
import NetgearSwitch.Lib.BigEndian

/-!
# Lines and fields of a text

Cutting a text into lines, at the first occurrence of a separator, and into blank-separated
words, as `splitlines`, `split(sep, 1)` and `split()` do, and bytes in hexadecimal.
-/

namespace PyText

/-! ## §1 Lines -/

/-- A character that ends a line. -/
def isLineBreak (c : Char) : Bool :=
  let n := c.toNat
  (10 ≤ n && n ≤ 13) || (28 ≤ n && n ≤ 30) || n == 0x85 || n == 0x2028 || n == 0x2029

/-- The lines of a text whose first line has begun with `line`, in reverse. -/
private def splitLinesFrom (line : Text) : Text → List Text
  | [] => if line.isEmpty then [] else [line.reverse]
  | '\r' :: '\n' :: s => line.reverse :: splitLinesFrom [] s
  | c :: s =>
    if isLineBreak c then line.reverse :: splitLinesFrom [] s else splitLinesFrom (c :: line) s

/-- `t.splitlines()`. -/
def splitLines (t : Text) : List Text := splitLinesFrom [] t

/-- A text without line breaks. -/
def OneLine (t : Text) : Prop := ∀ c ∈ t, isLineBreak c = false

instance (t : Text) : Decidable (OneLine t) := inferInstanceAs (Decidable (∀ c ∈ t, _))

theorem OneLine.append {s t : Text} (hs : OneLine s) (ht : OneLine t) : OneLine (s ++ t) := by
  intro c hc
  rcases List.mem_append.mp hc with hc | hc
  · exact hs c hc
  · exact ht c hc

theorem isSpace_of_isLineBreak {c : Char} (h : isLineBreak c = true) :
    isSpace c = true ∧ c ≠ ' ' := by
  constructor
  · simp only [isLineBreak, isSpace, Bool.or_eq_true, Bool.and_eq_true, decide_eq_true_eq,
      beq_iff_eq] at h ⊢
    omega
  · rintro rfl
    cases h

/-- A text whose only whitespace is the blank is one line. -/
theorem oneLine_of_blank {t : Text} (h : ∀ c ∈ t, c = ' ' ∨ isSpace c = false) : OneLine t := by
  intro c hc
  by_contra hbreak
  obtain ⟨hspace, hblank⟩ := isSpace_of_isLineBreak (Bool.eq_true_of_not_eq_false hbreak)
  rcases h c hc with h | h
  · exact hblank h
  · rw [hspace] at h
    cases h

private theorem splitLinesFrom_append {w : Text} (s line : Text) (hw : OneLine w) :
    splitLinesFrom line (w ++ s) = splitLinesFrom (w.reverse ++ line) s := by
  induction w generalizing line with
  | nil => rfl
  | cons c w ih =>
    have hc : isLineBreak c = false := hw c List.mem_cons_self
    have hcr : c ≠ '\r' := by
      rintro rfl
      cases hc
    rw [List.cons_append, splitLinesFrom]
    · rw [hc, if_neg Bool.false_ne_true, ih (c :: line) fun d hd => hw d (List.mem_cons_of_mem _ hd),
        List.reverse_cons, List.append_assoc]
      rfl
    · intro s' hc' _
      exact hcr hc'

/-- Lines that each end in a newline are cut back into themselves. -/
theorem splitLines_ended {ls : List Text} (h : ∀ l ∈ ls, OneLine l) :
    splitLines (ls.flatMap (· ++ ['\n'])) = ls := by
  unfold splitLines
  induction ls with
  | nil => rfl
  | cons l ls ih =>
    rw [List.flatMap_cons, List.append_assoc, splitLinesFrom_append _ _ (h l List.mem_cons_self),
      List.append_nil]
    show l.reverse.reverse :: splitLinesFrom [] (ls.flatMap (· ++ ['\n'])) = l :: ls
    rw [List.reverse_reverse, ih fun m hm => h m (List.mem_cons_of_mem _ hm)]

/-- `sep.join(parts)`. -/
def joinText (sep : Text) (parts : List Text) : Text := sep.intercalate parts

@[simp] theorem joinText_singleton (sep p : Text) : joinText sep [p] = p := by
  simp [joinText, List.intercalate]

@[simp] theorem joinText_cons_cons (sep p q : Text) (ps : List Text) :
    joinText sep (p :: q :: ps) = p ++ sep ++ joinText sep (q :: ps) := by
  simp [joinText, List.intercalate]

theorem joinText_append (sep : Text) {ps qs : List Text} (hps : ps ≠ []) (hqs : qs ≠ []) :
    joinText sep (ps ++ qs) = joinText sep ps ++ sep ++ joinText sep qs := by
  induction ps with
  | nil => exact absurd rfl hps
  | cons p ps ih =>
    cases ps with
    | nil =>
      obtain ⟨q, qs, rfl⟩ := List.exists_cons_of_ne_nil hqs
      simp
    | cons p' ps =>
      have hrest := ih (List.cons_ne_nil p' ps)
      rw [List.cons_append, List.cons_append, joinText_cons_cons, joinText_cons_cons,
        ← List.cons_append, hrest]
      simp only [List.append_assoc]

theorem mem_joinText {sep : Text} {parts : List Text} {c : Char} (h : c ∈ joinText sep parts) :
    c ∈ sep ∨ ∃ p ∈ parts, c ∈ p := by
  induction parts with
  | nil => simp [joinText] at h
  | cons p ps ih =>
    cases ps with
    | nil =>
      rw [joinText_singleton] at h
      exact Or.inr ⟨p, List.mem_cons_self, h⟩
    | cons q ps =>
      rw [joinText_cons_cons, List.append_assoc] at h
      rcases List.mem_append.mp h with h | h
      · exact Or.inr ⟨p, List.mem_cons_self, h⟩
      · rcases List.mem_append.mp h with h | h
        · exact Or.inl h
        · rcases ih h with h | ⟨r, hr, hc⟩
          · exact Or.inl h
          · exact Or.inr ⟨r, List.mem_cons_of_mem _ hr, hc⟩

theorem mem_joinText_of_mem (sep : Text) {parts : List Text} {p : Text} {c : Char} (hp : p ∈ parts)
    (hc : c ∈ p) : c ∈ joinText sep parts := by
  induction parts with
  | nil => cases hp
  | cons q ps ih =>
    cases ps with
    | nil =>
      rw [joinText_singleton]
      rwa [List.mem_singleton.mp hp] at hc
    | cons r ps =>
      rw [joinText_cons_cons, List.append_assoc]
      rcases List.mem_cons.mp hp with rfl | hp
      · exact List.mem_append_left _ hc
      · exact List.mem_append_right _ (List.mem_append_right _ (ih hp))

/-- Joined lines are cut back into themselves, unless the last is empty. -/
theorem splitLines_joinText {ls : List Text} {l : Text} (h : ∀ x ∈ ls, OneLine x) (hl : OneLine l)
    (hne : l ≠ []) : splitLines (joinText ['\n'] (ls ++ [l])) = ls ++ [l] := by
  unfold splitLines
  induction ls with
  | nil =>
    have hlast := splitLinesFrom_append [] [] hl
    rw [List.append_nil, List.append_nil] at hlast
    rw [List.nil_append, joinText_singleton, hlast, splitLinesFrom, List.reverse_reverse,
      if_neg (by simp [hne])]
  | cons x ls ih =>
    have hrest := ih fun y hy => h y (List.mem_cons_of_mem _ hy)
    rw [List.cons_append, show x :: (ls ++ [l]) = [x] ++ (ls ++ [l]) from rfl,
      joinText_append _ (List.cons_ne_nil _ _) (by simp), joinText_singleton, List.append_assoc,
      splitLinesFrom_append _ _ (h x List.mem_cons_self), List.append_nil]
    show x.reverse.reverse :: splitLinesFrom [] (joinText ['\n'] (ls ++ [l])) = x :: (ls ++ [l])
    rw [List.reverse_reverse, hrest]

theorem splitLines_joinText_getLast {ls : List Text} (hne : ls ≠ []) (h : ∀ l ∈ ls, OneLine l)
    (hlast : ls.getLast hne ≠ []) : splitLines (joinText ['\n'] ls) = ls := by
  have hsplit := List.dropLast_append_getLast hne
  rw [← hsplit] at h ⊢
  exact splitLines_joinText (fun l hl => h l (List.mem_append_left _ hl))
    (h _ (List.mem_append_right _ (List.mem_singleton_self _))) hlast

theorem splitLines_joinText_append {above below : List Text} (hbelow : below ≠ [])
    (h : ∀ l ∈ above ++ below, OneLine l) (hne : ∀ l ∈ below, l ≠ []) :
    splitLines (joinText ['\n'] (above ++ below)) = above ++ below := by
  have hsplit := List.dropLast_append_getLast hbelow
  have hlast := List.getLast_mem hbelow
  rw [← hsplit, ← List.append_assoc] at h ⊢
  refine splitLines_joinText (fun l hl => h l (List.mem_append_left _ hl)) ?_ (hne _ hlast)
  exact h _ (List.mem_append_right _ (List.mem_singleton_self _))

/-! ## §2 Cutting at a separator -/

/-- The rest of `t` after the word `w`, if it starts with it. -/
def after? : Text → Text → Option Text
  | [], t => some t
  | _ :: _, [] => none
  | c :: w, d :: t => if c = d then after? w t else none

/-- `t.split(sep, 1)` where `sep` occurs in `t`. -/
def splitOnce (sep : Text) : Text → Option (Text × Text)
  | [] => none
  | c :: t =>
    match after? sep (c :: t) with
    | some rest => some ([], rest)
    | none => (splitOnce sep t).map fun parts => (c :: parts.1, parts.2)

/-- `w in t` for a non-empty `w`. -/
def containsText (w t : Text) : Bool := (splitOnce w t).isSome

theorem after?_append (w t : Text) : after? w (w ++ t) = some t := by
  induction w with
  | nil => rfl
  | cons c w ih => simpa [after?] using ih

theorem eq_append_of_after? {w t rest : Text} (h : after? w t = some rest) : t = w ++ rest := by
  induction w generalizing t with
  | nil => simpa [after?] using h
  | cons c w ih =>
    cases t with
    | nil => simp [after?] at h
    | cons d t =>
      by_cases hcd : c = d
      · rw [after?, if_pos hcd] at h
        rw [hcd, ih h, List.cons_append]
      · simp [after?, hcd] at h

/-- The separator is found where it stands, if its first character does not come earlier. -/
theorem splitOnce_append {c : Char} {sep w : Text} (t : Text) (h : c ∉ w) :
    splitOnce (c :: sep) (w ++ (c :: sep) ++ t) = some (w, t) := by
  induction w with
  | nil =>
    rw [List.nil_append, List.cons_append, splitOnce, ← List.cons_append, after?_append]
  | cons d w ih =>
    have hcd : c ≠ d := fun hcd => h (hcd ▸ List.mem_cons_self)
    have htail := ih fun hw => h (List.mem_cons_of_mem _ hw)
    rw [List.cons_append, List.cons_append, splitOnce, after?, if_neg hcd, htail]
    rfl

/-- A text that lacks a character of the separator lacks the separator. -/
theorem splitOnce_eq_none {c : Char} {sep t : Text} (hsep : c ∈ sep) (h : c ∉ t) :
    splitOnce sep t = none := by
  induction t with
  | nil => rfl
  | cons d t ih =>
    have hafter : after? sep (d :: t) = none := by
      cases hrest : after? sep (d :: t) with
      | none => rfl
      | some rest =>
        rw [eq_append_of_after? hrest] at h
        exact absurd (List.mem_append_left _ hsep) h
    rw [splitOnce, hafter, ih fun ht => h (List.mem_cons_of_mem _ ht)]
    rfl

/-- `".".join(parts)`. -/
def joinDot (parts : List Text) : Text := ['.'].intercalate parts

/-- The parts after `front`, where there are any. -/
def afterParts? : List Text → List Text → Option (List Text)
  | [], [] => none
  | [], p :: ps => some (p :: ps)
  | _ :: _, [] => none
  | c :: cs, p :: ps => if c = p then afterParts? cs ps else none

@[simp] theorem joinDot_singleton (p : Text) : joinDot [p] = p := by
  simp [joinDot, List.intercalate]

@[simp] theorem joinDot_cons_cons (p q : Text) (ps : List Text) :
    joinDot (p :: q :: ps) = p ++ '.' :: joinDot (q :: ps) := by
  simp [joinDot, List.intercalate]

theorem joinDot_concat {ps : List Text} (hne : ps ≠ []) (q : Text) :
    joinDot (ps ++ [q]) = joinDot ps ++ '.' :: q := by
  induction ps with
  | nil => exact absurd rfl hne
  | cons p ps ih =>
    cases ps with
    | nil => simp
    | cons p' ps =>
      have htail := ih (List.cons_ne_nil p' ps)
      rw [List.cons_append, List.cons_append, joinDot_cons_cons, joinDot_cons_cons,
        ← List.cons_append, htail, List.append_assoc, List.cons_append]

theorem splitOn_joinDot {ps : List Text} (hne : ps ≠ []) (h : ∀ p ∈ ps, '.' ∉ p) :
    (joinDot ps).splitOn '.' = ps := List.splitOn_intercalate '.' h hne

/-- Two parts up to their dots. -/
private theorem after?_dot {a b : Text} (w t : Text) (ha : '.' ∉ a) (hb : '.' ∉ b) :
    after? (a ++ '.' :: w) (b ++ '.' :: t) = if a = b then after? w t else none := by
  induction a generalizing b with
  | nil =>
    cases b with
    | nil => simp [after?]
    | cons d b =>
      have hd : '.' ≠ d := fun h => hb (h ▸ List.mem_cons_self)
      simp [after?, hd]
  | cons c a ih =>
    cases b with
    | nil =>
      have hc : c ≠ '.' := fun h => ha (h ▸ List.mem_cons_self)
      simp [after?, hc]
    | cons d b =>
      have hcons := @ih b (fun h => ha (List.mem_cons_of_mem _ h))
        fun h => hb (List.mem_cons_of_mem _ h)
      by_cases hcd : c = d
      · simp [after?, hcd, hcons]
      · simp [after?, hcd]

/-- A dotted prefix, with its last dot, is taken off part by part. -/
theorem after?_joinDot {cs ps : List Text} (hne : cs ≠ []) (hcs : ∀ c ∈ cs, '.' ∉ c)
    (hps : ∀ p ∈ ps, '.' ∉ p) :
    after? (joinDot cs ++ ['.']) (joinDot ps) = (afterParts? cs ps).map joinDot := by
  -- a text without a dot does not start with a dotted prefix
  have hnodot : ∀ {w p : Text}, '.' ∈ w → '.' ∉ p → after? w p = none := by
    intro w p hw hp
    cases hrest : after? w p with
    | none => rfl
    | some rest =>
      rw [eq_append_of_after? hrest] at hp
      exact absurd (List.mem_append_left _ hw) hp
  induction cs generalizing ps with
  | nil => exact absurd rfl hne
  | cons c cs ih =>
    have hc := hcs c List.mem_cons_self
    cases ps with
    | nil => exact hnodot (by simp) (by simp [joinDot])
    | cons p ps =>
      have hp := hps p List.mem_cons_self
      cases ps with
      | nil =>
        rw [joinDot_singleton, hnodot (by simp) hp, afterParts?]
        cases cs <;> simp [afterParts?]
      | cons q ps =>
        have htail := fun hcs' : cs ≠ [] => @ih (q :: ps) hcs'
          (fun d hd => hcs d (List.mem_cons_of_mem _ hd)) fun d hd => hps d (List.mem_cons_of_mem _ hd)
        rw [joinDot_cons_cons, afterParts?]
        cases cs with
        | nil =>
          rw [joinDot_singleton, after?_dot _ _ hc hp, afterParts?]
          split_ifs <;> simp [after?]
        | cons c' cs =>
          rw [joinDot_cons_cons, List.append_assoc, List.cons_append, after?_dot _ _ hc hp,
            htail (by simp)]
          split_ifs <;> rfl

section Split

variable {α : Type} [DecidableEq α] {c : α} {l x part : List α}

/-- The front of a text up to a separator is a prefix, every part an infix of the text. -/
theorem infix_of_mem_splitOn (h : part ∈ l.splitOn c) : part <:+: l := by
  have hboth : ∀ l : List α, (∀ p, (l.splitOn c).head? = some p → p <+: l) ∧
      ∀ p ∈ l.splitOn c, p <:+: l := by
    intro l
    induction l with
    | nil => simp [List.splitOn_nil]
    | cons d l ih =>
      obtain ⟨hhead, hall⟩ := ih
      rw [List.splitOn_cons_eq_if_modifyHead]
      cases hd : d == c with
      | true =>
        rw [if_pos rfl]
        refine ⟨fun p hp => ?_, fun p hp => ?_⟩
        · cases hp
          exact List.nil_prefix
        · rcases List.mem_cons.mp hp with rfl | hp
          · exact List.nil_infix
          · exact (hall p hp).trans (List.suffix_cons d l).isInfix
      | false =>
        rw [if_neg Bool.false_ne_true]
        cases hsplit : l.splitOn c with
        | nil => exact absurd hsplit (List.splitOn_ne_nil c l)
        | cons p ps =>
          rw [hsplit] at hhead hall
          have hp : d :: p <+: d :: l := List.cons_prefix_cons.mpr ⟨rfl, hhead p rfl⟩
          rw [List.modifyHead_cons]
          refine ⟨fun q hq => ?_, fun q hq => ?_⟩
          · cases hq
            exact hp
          · rcases List.mem_cons.mp hq with rfl | hq
            · exact hp.isInfix
            · exact (hall q (List.mem_cons_of_mem _ hq)).trans (List.suffix_cons d l).isInfix
  exact (hboth l).2 part h

theorem prefix_head_splitOn (hx : c ∉ x) (h : x <+: l) :
    ∃ p ps, l.splitOn c = p :: ps ∧ x <+: p := by
  induction l generalizing x with
  | nil => exact ⟨[], [], List.splitOn_nil c, h⟩
  | cons d l ih =>
    cases x with
    | nil =>
      obtain ⟨p, ps, hsplit⟩ := List.exists_cons_of_ne_nil (List.splitOn_ne_nil c (d :: l))
      exact ⟨p, ps, hsplit, List.nil_prefix⟩
    | cons e x =>
      obtain ⟨rfl, hprefix⟩ := List.cons_prefix_cons.mp h
      obtain ⟨p, ps, hsplit, hp⟩ := ih (fun hmem => hx (List.mem_cons_of_mem _ hmem)) hprefix
      have hne : (e == c) = false := beq_eq_false_iff_ne.mpr fun heq => hx (heq ▸ List.mem_cons_self)
      refine ⟨e :: p, ps, ?_, List.cons_prefix_cons.mpr ⟨rfl, hp⟩⟩
      rw [List.splitOn_cons_eq_if_modifyHead, hne, if_neg Bool.false_ne_true, hsplit,
        List.modifyHead_cons]

/-- No part has the separator. -/
theorem not_mem_of_mem_splitOn (h : part ∈ l.splitOn c) : c ∉ part := by
  induction l generalizing part with
  | nil =>
    rw [List.splitOn_nil, List.mem_singleton] at h
    rw [h]
    exact List.not_mem_nil
  | cons d l ih =>
    rw [List.splitOn_cons_eq_if_modifyHead] at h
    cases hd : d == c with
    | true =>
      rw [hd, if_pos rfl] at h
      rcases List.mem_cons.mp h with rfl | h
      · exact List.not_mem_nil
      · exact ih h
    | false =>
      rw [hd, if_neg Bool.false_ne_true] at h
      cases hsplit : l.splitOn c with
      | nil => exact absurd hsplit (List.splitOn_ne_nil c l)
      | cons p ps =>
        rw [hsplit, List.modifyHead_cons] at h
        rw [hsplit] at ih
        rcases List.mem_cons.mp h with rfl | h
        · rw [List.mem_cons, not_or]
          exact ⟨(beq_eq_false_iff_ne.mp hd).symm, ih List.mem_cons_self⟩
        · exact ih (List.mem_cons_of_mem _ h)

/-- A piece without the separator lies within one part. -/
theorem exists_mem_splitOn (hx : c ∉ x) (h : x <:+: l) : ∃ part ∈ l.splitOn c, x <:+: part := by
  induction l with
  | nil =>
    refine ⟨[], by simp [List.splitOn_nil], h⟩
  | cons d l ih =>
    rcases List.infix_cons_iff.mp h with hprefix | hinfix
    · obtain ⟨p, ps, hsplit, hp⟩ := prefix_head_splitOn hx hprefix
      exact ⟨p, hsplit ▸ List.mem_cons_self, hp.isInfix⟩
    · obtain ⟨part, hpart, hin⟩ := ih hinfix
      rw [List.splitOn_cons_eq_if_modifyHead]
      cases hd : d == c with
      | true =>
        rw [if_pos rfl]
        exact ⟨part, List.mem_cons_of_mem _ hpart, hin⟩
      | false =>
        rw [if_neg Bool.false_ne_true]
        cases hsplit : l.splitOn c with
        | nil => exact absurd hsplit (List.splitOn_ne_nil c l)
        | cons p ps =>
          rw [hsplit] at hpart
          rw [List.modifyHead_cons]
          rcases List.mem_cons.mp hpart with rfl | hpart
          · exact ⟨d :: part, List.mem_cons_self, hin.trans (List.suffix_cons d part).isInfix⟩
          · exact ⟨part, List.mem_cons_of_mem _ hpart, hin⟩

end Split
/-! ## §3 Stripping and words -/

/-- A text with no blank at either end has nothing to strip. -/
theorem strip_of_ends {t : Text} (hhead : ∀ c, t.head? = some c → isSpace c = false)
    (hlast : ∀ c, t.getLast? = some c → isSpace c = false) : strip t = t := by
  have hdrop : ∀ {s : Text}, (∀ c, s.head? = some c → isSpace c = false) →
      s.dropWhile isSpace = s := by
    intro s hs
    cases s with
    | nil => rfl
    | cons c s => simp [hs c rfl]
  rw [strip, hdrop hhead, hdrop (by simpa using hlast), List.reverse_reverse]

/-- A blank at the end is stripped. -/
theorem strip_append_blank {t : Text} (hhead : ∀ c, t.head? = some c → isSpace c = false)
    (hlast : ∀ c, t.getLast? = some c → isSpace c = false) : strip (t ++ [' ']) = t := by
  cases t with
  | nil => rfl
  | cons c t =>
    have hstrip := strip_of_ends hhead hlast
    have hc : isSpace c = false := hhead c rfl
    rw [strip, List.dropWhile_cons_of_neg (by simp [hc])] at hstrip
    rw [strip, List.cons_append, List.dropWhile_cons_of_neg (by simp [hc]), ← List.cons_append,
      List.reverse_append]
    exact hstrip

private theorem head?_dropWhile_isSpace (s : Text) :
    ∀ c, (s.dropWhile isSpace).head? = some c → isSpace c = false := by
  intro c hc
  have hhead := List.head?_dropWhile_not isSpace s
  rw [hc] at hhead
  exact hhead

/-- A stripped text does not start with a blank. -/
theorem head?_strip (t : Text) : ∀ c, (strip t).head? = some c → isSpace c = false := by
  intro c hc
  -- what is stripped off the end leaves the front
  have hprefix : strip t <+: t.dropWhile isSpace := by
    rw [strip, ← List.reverse_suffix, List.reverse_reverse]
    exact List.dropWhile_suffix _
  obtain ⟨rest, hrest⟩ := hprefix
  refine head?_dropWhile_isSpace t c ?_
  rw [← hrest, List.head?_append, hc]
  rfl

/-- A stripped text does not end with a blank. -/
theorem getLast?_strip (t : Text) : ∀ c, (strip t).getLast? = some c → isSpace c = false := by
  intro c hc
  rw [strip, List.getLast?_reverse] at hc
  exact head?_dropWhile_isSpace _ c hc

@[simp] theorem strip_strip (t : Text) : strip (strip t) = strip t :=
  strip_of_ends (head?_strip t) (getLast?_strip t)

/-- Padding is stripped with the rest. -/
theorem strip_append_replicate (t : Text) (n : ℕ) : strip (t ++ List.replicate n ' ') = strip t := by
  have hpad : ∀ s : Text, (List.replicate n ' ' ++ s).dropWhile isSpace = s.dropWhile isSpace := by
    intro s
    refine List.dropWhile_append_of_pos ?_
    intro c hc
    rw [(List.mem_replicate.mp hc).2]
    rfl
  unfold strip
  congr 1
  cases hdrop : t.dropWhile isSpace with
  | nil =>
    -- nothing but blanks
    have hall : ∀ c ∈ t, isSpace c = true := List.dropWhile_eq_nil_iff.mp hdrop
    rw [List.dropWhile_append_of_pos hall]
    have hnil := hpad []
    rw [List.append_nil] at hnil
    rw [hnil]
    rfl
  | cons c rest =>
    have happ : (t ++ List.replicate n ' ').dropWhile isSpace =
        t.dropWhile isSpace ++ List.replicate n ' ' := by
      rw [List.dropWhile_append, hdrop]
      rfl
    rw [happ, hdrop, List.reverse_append, List.reverse_replicate, hpad]

/-- `t.lstrip(c)`. -/
def lstripChar (c : Char) (t : Text) : Text := t.dropWhile (· = c)

/-- A text with a character that is no blank does not strip to nothing. -/
theorem strip_ne_nil {t : Text} {c : Char} (hc : c ∈ t) (hspace : isSpace c = false) :
    strip t ≠ [] := by
  have hkeep : ∀ {s : Text}, c ∈ s → c ∈ s.dropWhile isSpace := by
    intro s hs
    induction s with
    | nil => cases hs
    | cons d s ih =>
      by_cases hd : isSpace d = true
      · rw [List.dropWhile_cons_of_pos hd]
        rcases List.mem_cons.mp hs with rfl | hs
        · rw [hspace] at hd
          cases hd
        · exact ih hs
      · rwa [List.dropWhile_cons_of_neg hd]
  have hmem : c ∈ strip t := List.mem_reverse.mpr (hkeep (List.mem_reverse.mpr (hkeep hc)))
  exact List.ne_nil_of_mem hmem

/-- `t.split()`. -/
def splitBlank (t : Text) : List Text := (t.splitOnP isSpace).filter (· ≠ [])

theorem splitBlank_append (s t : Text) {c : Char} (hc : isSpace c = true) :
    splitBlank (s ++ c :: t) = splitBlank s ++ splitBlank t := by
  rw [splitBlank, List.splitOnP_append_cons s t hc, List.filter_append]
  rfl

theorem splitBlank_word {w : Text} (hne : w ≠ []) (hw : ∀ c ∈ w, isSpace c = false) :
    splitBlank w = [w] := by
  rw [splitBlank, List.splitOnP_eq_singleton hw]
  simp [hne]

@[simp] theorem splitBlank_cons_space {c : Char} (t : Text) (hc : isSpace c = true) :
    splitBlank (c :: t) = splitBlank t := splitBlank_append [] t hc

/-- A text with a character that is no blank has words. -/
theorem splitBlank_ne_nil {t : Text} {c : Char} (hc : c ∈ t) (hspace : isSpace c = false) :
    splitBlank t ≠ [] := by
  induction t with
  | nil => cases hc
  | cons d t ih =>
    by_cases hd : isSpace d = true
    · rw [splitBlank_cons_space _ hd]
      rcases List.mem_cons.mp hc with rfl | hc
      · rw [hspace] at hd
        cases hd
      · exact ih hc
    · -- the first word runs up to the first blank
      have hsplit := List.takeWhile_append_dropWhile (p := fun c => !isSpace c) (l := d :: t)
      have hword : ∀ e ∈ (d :: t).takeWhile fun c => !isSpace c, isSpace e = false := fun e he => by
        simpa using List.mem_takeWhile_imp he
      have hne : (d :: t).takeWhile (fun c => !isSpace c) ≠ [] := by
        rw [List.takeWhile_cons_of_pos (by simp [hd])]
        exact List.cons_ne_nil _ _
      cases hrest : (d :: t).dropWhile fun c => !isSpace c with
      | nil =>
        rw [hrest, List.append_nil] at hsplit
        rw [← hsplit, splitBlank_word hne hword]
        exact List.cons_ne_nil _ _
      | cons e r =>
        have he : isSpace e = true := by
          have hhead := List.head?_dropWhile_not (fun c => !isSpace c) (d :: t)
          rw [hrest] at hhead
          simpa using hhead
        rw [hrest] at hsplit
        rw [← hsplit, splitBlank_append _ _ he, splitBlank_word hne hword]
        exact List.cons_ne_nil _ _

/-- Blanks before a text make no words. -/
theorem splitBlank_blanks_append {b : Text} (t : Text) (hb : ∀ c ∈ b, isSpace c = true) :
    splitBlank (b ++ t) = splitBlank t := by
  induction b with
  | nil => rfl
  | cons c b ih =>
    rw [List.cons_append, splitBlank_cons_space _ (hb c List.mem_cons_self)]
    exact ih fun d hd => hb d (List.mem_cons_of_mem _ hd)

/-- Blanks after a text make no words. -/
theorem splitBlank_append_blanks (t : Text) {b : Text} (hb : ∀ c ∈ b, isSpace c = true) :
    splitBlank (t ++ b) = splitBlank t := by
  cases b with
  | nil => rw [List.append_nil]
  | cons c b =>
    have hrest := splitBlank_blanks_append [] fun d hd => hb d (List.mem_cons_of_mem _ hd)
    rw [List.append_nil] at hrest
    rw [splitBlank_append _ _ (hb c List.mem_cons_self), hrest]
    exact List.append_nil _

/-- What `strip` takes off a text are blanks. -/
theorem exists_strip (t : Text) : ∃ front back, t = front ++ strip t ++ back ∧
    (∀ c ∈ front, isSpace c = true) ∧ ∀ c ∈ back, isSpace c = true := by
  have htake : ∀ s : Text, ∀ c ∈ s.takeWhile isSpace, isSpace c = true :=
    fun s c hc => List.mem_takeWhile_imp hc
  refine ⟨t.takeWhile isSpace, ((t.dropWhile isSpace).reverse.takeWhile isSpace).reverse, ?_,
    htake t, fun c hc => htake _ c (List.mem_reverse.mp hc)⟩
  rw [List.append_assoc, strip, ← List.reverse_append, List.takeWhile_append_dropWhile,
    List.reverse_reverse, List.takeWhile_append_dropWhile]

@[simp] theorem splitBlank_strip (t : Text) : splitBlank (strip t) = splitBlank t := by
  obtain ⟨front, back, ht, hfront, hback⟩ := exists_strip t
  conv_rhs => rw [ht]
  rw [splitBlank_append_blanks _ hback, splitBlank_blanks_append _ hfront]

/-- The rest of a text whose blanks are collapsed, after a blank or not. -/
def collapseFrom (afterBlank : Bool) : Text → Text
  | [] => []
  | c :: t =>
    if isSpace c then
      if afterBlank then collapseFrom true t else ' ' :: collapseFrom true t
    else c :: collapseFrom false t

/-- `re.sub(r"\s+", " ", t)`: every run of whitespace is one blank. -/
def collapseBlank (t : Text) : Text := collapseFrom false t

/-- The words of a text, the first of them begun with `w`, are what collapsing leaves of it. -/
private theorem collapseFrom_eq {t : Text}
    (hlast : ∀ c, t.getLast? = some c → isSpace c = false) :
    collapseFrom true t = joinText [' '] (splitBlank t) ∧
      ∀ w : Text, w ≠ [] → (∀ c ∈ w, isSpace c = false) →
        w ++ collapseFrom false t = joinText [' '] (splitBlank (w ++ t)) := by
  induction t with
  | nil =>
    refine ⟨rfl, ?_⟩
    intro w hne hw
    rw [List.append_nil, splitBlank_word hne hw, joinText_singleton]
    exact List.append_nil w
  | cons c t ih =>
    have htail : ∀ d, t.getLast? = some d → isSpace d = false := by
      intro d hd
      exact hlast d (by rw [List.getLast?_cons, hd]; rfl)
    obtain ⟨hblank, hword⟩ := ih htail
    by_cases hc : isSpace c = true
    · -- the last character is no blank, so another word follows
      have hwords : splitBlank t ≠ [] := by
        cases hend : t.getLast? with
        | none =>
          rw [List.getLast?_eq_none_iff.mp hend] at hlast
          rw [hlast c rfl] at hc
          cases hc
        | some d => exact splitBlank_ne_nil (List.mem_of_getLast? hend) (htail d hend)
      refine ⟨?_, ?_⟩
      · rw [collapseFrom, if_pos hc, if_pos rfl, hblank, splitBlank_cons_space _ hc]
      · intro w hne hw
        rw [collapseFrom, if_pos hc, if_neg Bool.false_ne_true, hblank, splitBlank_append _ _ hc,
          splitBlank_word hne hw, joinText_append _ (List.cons_ne_nil _ _) hwords,
          joinText_singleton, List.append_assoc, List.singleton_append]
    · have hfalse : isSpace c = false := Bool.eq_false_of_not_eq_true hc
      refine ⟨?_, ?_⟩
      · rw [collapseFrom, if_neg hc]
        exact hword [c] (List.cons_ne_nil _ _) (by simpa using hfalse)
      · intro w hne hw
        have hnext := hword (w ++ [c]) (by simp) (by
          intro d hd
          rcases List.mem_append.mp hd with hd | hd
          · exact hw d hd
          · rw [List.mem_singleton.mp hd]
            exact hfalse)
        rw [collapseFrom, if_neg hc]
        simpa only [List.append_assoc, List.singleton_append] using hnext

/-- What is left of a text when it is stripped and its blanks are collapsed. -/
theorem collapseBlank_strip (t : Text) :
    collapseBlank (strip t) = joinText [' '] (splitBlank t) := by
  have hlast := getLast?_strip t
  cases hstrip : strip t with
  | nil =>
    have hwords := splitBlank_strip t
    rw [hstrip] at hwords
    rw [← hwords]
    rfl
  | cons c u =>
    have hcollapse := (collapseFrom_eq hlast).1
    have hfirst : isSpace c = false := by
      have hhead := head?_strip t c
      rw [hstrip] at hhead
      exact hhead rfl
    rw [splitBlank_strip, hstrip, collapseFrom, if_neg (by simp [hfirst])] at hcollapse
    rw [collapseBlank, collapseFrom, if_neg (by simp [hfirst])]
    exact hcollapse

/-! ## §4 Hexadecimal -/

/-- The digit printed for a number below 16. -/
def hexDigit (d : ℕ) : Char := if d < 10 then digitChar d else Char.ofNat (55 + d)

/-- `f"{b:02X}"`. -/
def hexPair (b : UInt8) : Text := [hexDigit (b.toNat / 16), hexDigit (b.toNat % 16)]

/-- Bytes in hexadecimal, each followed by a blank. -/
def hexLine (b : Bytes) : Text := b.flatMap fun x => hexPair x ++ [' ']

/-- The value of a hexadecimal digit. -/
def hexValue (c : Char) : Option ℕ :=
  let n := c.toNat
  if 48 ≤ n ∧ n ≤ 57 then some (n - 48)
  else if 97 ≤ n ∧ n ≤ 102 then some (n - 87)
  else if 65 ≤ n ∧ n ≤ 70 then some (n - 55)
  else none

/-- A run of hexadecimal digits in which single underscores may stand between digits. -/
def readHex (t : Text) : Option ℕ :=
  let groups := t.splitOn '_'
  if groups.any List.isEmpty then none
  else groups.flatten.foldlM (fun acc c => (hexValue c).map fun d => acc * 16 + d) 0

/-- `int(t, 16)`, `none` where it raises `ValueError`. -/
def pyIntHex (t : Text) : Option ℤ :=
  -- the prefix `0x` may itself be followed by an underscore
  let unsigned (t : Text) : Option ℤ :=
    (match t with
      | '0' :: x :: '_' :: ds => if x = 'x' ∨ x = 'X' then readHex ds else readHex t
      | '0' :: x :: ds => if x = 'x' ∨ x = 'X' then readHex ds else readHex t
      | ds => readHex ds).map fun n : ℕ => (n : ℤ)
  match strip t with
  | '-' :: ds => (unsigned ds).map fun n => -n
  | '+' :: ds => unsigned ds
  | ds => unsigned ds

theorem mem_hexPair (b : UInt8) : ∀ c ∈ hexPair b, isSpace c = false ∧ (hexValue c).isSome := by
  have hall : ∀ n : Fin 256, ∀ c ∈ hexPair (UInt8.ofNat n),
      isSpace c = false ∧ (hexValue c).isSome := by decide +kernel
  have hb := hall ⟨b.toNat, b.toNat_lt⟩
  rwa [UInt8.ofNat_toNat] at hb

/-- A line of bytes is hexadecimal digits and blanks. -/
theorem mem_hexLine {b : Bytes} {c : Char} (hc : c ∈ hexLine b) :
    c = ' ' ∨ isSpace c = false ∧ (hexValue c).isSome := by
  obtain ⟨x, _, hc⟩ := List.mem_flatMap.mp hc
  rcases List.mem_append.mp hc with hc | hc
  · exact Or.inr (mem_hexPair x c hc)
  · exact Or.inl (List.mem_singleton.mp hc)

theorem oneLine_hexLine (b : Bytes) : OneLine (hexLine b) :=
  oneLine_of_blank fun _ hc => (mem_hexLine hc).imp id And.left

/-- A line of bytes is its words with a blank after the last. -/
theorem exists_hexLine {b : Bytes} (hne : b ≠ []) : ∃ core, hexLine b = core ++ [' '] ∧
    (∀ c, core.head? = some c → isSpace c = false) ∧
    (∀ c, core.getLast? = some c → isSpace c = false) ∧ splitBlank core = b.map hexPair := by
  induction b with
  | nil => exact absurd rfl hne
  | cons x b ih =>
    have hx : ∀ c ∈ hexPair x, isSpace c = false := fun c hc => (mem_hexPair x c hc).1
    have hword : splitBlank (hexPair x) = [hexPair x] := splitBlank_word (by simp [hexPair]) hx
    cases b with
    | nil =>
      refine ⟨hexPair x, by simp [hexLine], fun c hc => hx c (List.mem_of_mem_head? hc),
        fun c hc => hx c (List.mem_of_getLast? hc), hword⟩
    | cons y b =>
      obtain ⟨core, hline, hhead, hlast, hwords⟩ := ih (by simp)
      have hcore : core ≠ [] := by
        rintro rfl
        cases hwords
      refine ⟨hexPair x ++ ' ' :: core, ?_, ?_, ?_, ?_⟩
      · show (hexPair x ++ [' ']) ++ hexLine (y :: b) = _
        rw [hline]
        simp
      · intro c hc
        exact hx c (List.mem_of_mem_head? (by simpa [hexPair] using hc))
      · intro c hc
        apply hlast c
        rw [List.getLast?_append_of_ne_nil _ (by simp), List.getLast?_cons] at hc
        rw [List.getLast?_eq_some_getLast hcore] at hc ⊢
        simpa using hc
      · rw [splitBlank_append _ _ (by decide), hword, hwords]
        rfl

/-- A line of bytes, stripped, is its words. -/
theorem splitBlank_strip_hexLine {b : Bytes} (hne : b ≠ []) :
    strip (hexLine b) ≠ [] ∧ splitBlank (strip (hexLine b)) = b.map hexPair := by
  obtain ⟨core, hline, hhead, hlast, hwords⟩ := exists_hexLine hne
  rw [hline, strip_append_blank hhead hlast]
  refine ⟨?_, hwords⟩
  rintro rfl
  exact hne (List.map_eq_nil_iff.mp hwords.symm)

/-- Reading a printed byte. -/
theorem pyIntHex_hexPair (b : UInt8) : pyIntHex (hexPair b) = some (b.toNat : ℤ) := by
  have hall : ∀ n : Fin 256, pyIntHex (hexPair (UInt8.ofNat n)) = some ((n : ℕ) : ℤ) := by
    decide +kernel
  have hb := hall ⟨b.toNat, b.toNat_lt⟩
  rwa [UInt8.ofNat_toNat] at hb

end PyText
