import NetgearSwitch.Lib.PyRe

/-!
# Character references

`html.escape` and `html.unescape`.  The table of the named references is a parameter: what a
name stands for, if it is in the table.  A decimal reference of more than 4300 digits is none,
where `int` raises `ValueError`.
-/

namespace Html

open PyText PyRe

/-! ## §1 Escaping -/

/-- `html.escape(c)` of one character. -/
def escapeChar (c : Char) : Text :=
  if c = '&' then "&amp;".toList
  else if c = '<' then "&lt;".toList
  else if c = '>' then "&gt;".toList
  else if c = '"' then "&quot;".toList
  else if c = '\'' then "&#x27;".toList
  else [c]

/-- `html.escape(t)`. -/
def escape (t : Text) : Text := t.flatMap escapeChar

/-! ## §2 Unescaping -/

/-- Numbers that stand for another character than their own. -/
def invalidCharrefs : List (ℕ × ℕ) := [
  (0x00, 0xFFFD), (0x0D, 0x0D), (0x80, 0x20AC), (0x81, 0x81), (0x82, 0x201A), (0x83, 0x0192),
  (0x84, 0x201E), (0x85, 0x2026), (0x86, 0x2020), (0x87, 0x2021), (0x88, 0x02C6), (0x89, 0x2030),
  (0x8A, 0x0160), (0x8B, 0x2039), (0x8C, 0x0152), (0x8D, 0x8D), (0x8E, 0x017D), (0x8F, 0x8F),
  (0x90, 0x90), (0x91, 0x2018), (0x92, 0x2019), (0x93, 0x201C), (0x94, 0x201D), (0x95, 0x2022),
  (0x96, 0x2013), (0x97, 0x2014), (0x98, 0x02DC), (0x99, 0x2122), (0x9A, 0x0161), (0x9B, 0x203A),
  (0x9C, 0x0153), (0x9D, 0x9D), (0x9E, 0x017E), (0x9F, 0x0178)]

/-- Numbers that stand for nothing. -/
def isInvalidCodepoint (n : ℕ) : Bool :=
  (1 ≤ n && n ≤ 8) || n == 0xB || (0xE ≤ n && n ≤ 0x1F) || (0x7F ≤ n && n ≤ 0x9F) ||
    (0xFDD0 ≤ n && n ≤ 0xFDEF) || n % 0x10000 == 0xFFFE || n % 0x10000 == 0xFFFF

/-- The text a numeric reference stands for. -/
def charref (n : ℕ) : Text :=
  match invalidCharrefs.lookup n with
  | some m => [Char.ofNat m]
  | none =>
    if (0xD800 ≤ n && n ≤ 0xDFFF) || 0x10FFFF < n then [Char.ofNat 0xFFFD]
    else if isInvalidCodepoint n then []
    else [Char.ofNat n]

/-- The longest proper start of a name, of two characters or more, that the table has: what it
stands for, and the rest of the name. -/
def longestName (named : Text → Option Text) (name : Text) : ℕ → Option Text
  | 0 | 1 => none
  | x + 1 =>
    match named (name.take (x + 1)) with
    | some v => some (v ++ name.drop (x + 1))
    | none => longestName named name x

/-- The text a name, with its semicolon if it has one, stands for. -/
def namedRef (named : Text → Option Text) (name : Text) : Text :=
  match named name with
  | some v => v
  | none => (longestName named name (name.length - 1)).getD ('&' :: name)

/-- The value of a hexadecimal digit. -/
def hexDigit? (c : Char) : Option ℕ :=
  if isDigit c then some (c.toNat - 48)
  else if 'a' ≤ c ∧ c ≤ 'f' then some (c.toNat - 87)
  else if 'A' ≤ c ∧ c ≤ 'F' then some (c.toNat - 55)
  else none

/-- `int(t, 16)` of hexadecimal digits. -/
def hexValue (t : Text) : ℕ := t.foldl (fun acc c => acc * 16 + (hexDigit? c).getD 0) 0

/-- A character of a name. -/
def isNameChar (c : Char) : Bool :=
  !(['\t', '\n', Char.ofNat 12, ' ', '<', '&', '#', ';'].contains c)

/-- A semicolon, if there is one. -/
def dropSemicolon : Text → Text
  | ';' :: s => s
  | s => s

/-- The reference at the front of a text: what it stands for, none where `int` refuses it, and
the text left over. -/
def reference (named : Text → Option Text) : Rest (Option Text × Text)
  | '&' :: '#' :: s =>
    if s.takeWhile isDigit ≠ [] then
      some ((intOfDecimals (s.takeWhile isDigit)).map charref, dropSemicolon (s.dropWhile isDigit))
    else
      match s with
      | x :: h =>
        if (x = 'x' ∨ x = 'X') ∧ h.takeWhile (fun c => (hexDigit? c).isSome) ≠ [] then
          some (some (charref (hexValue (h.takeWhile fun c => (hexDigit? c).isSome))),
            dropSemicolon (h.dropWhile fun c => (hexDigit? c).isSome))
        else none
      | [] => none
  | '&' :: s =>
    let name := (s.take 32).takeWhile isNameChar
    let left := s.drop name.length
    if name = [] then none
    else if left.head? = some ';' then some (some (namedRef named (name ++ [';'])), left.tail)
    else some (some (namedRef named name), left)
  | _ => none

/-- `html.unescape(t)`, none where it raises. -/
def unescape (named : Text → Option Text) (t : Text) : Option Text :=
  if (finditer (reference named) t).all Option.isSome then
    some (sub (fun s => (reference named s).map fun r => (r.1.getD [], r.2)) t)
  else none

theorem reference_of_ne {named : Text → Option Text} {s : Text} (h : s.head? ≠ some '&') :
    reference named s = none := by
  unfold reference
  split
  · exact absurd rfl h
  · exact absurd rfl h
  · rfl

/-- A text without an ampersand is left as it is. -/
theorem unescape_of_not_mem (named : Text → Option Text) {t : Text} (h : '&' ∉ t) :
    unescape named t = some t := by
  have hnone : ∀ u v, t = u ++ v → v ≠ [] → reference named v = none := by
    intro u v huv hv
    apply reference_of_ne
    intro hhead
    have hmem : '&' ∈ v := List.mem_of_mem_head? hhead
    exact h (huv ▸ List.mem_append_right u hmem)
  have hfind : finditer (reference named) t = [] := finditer_eq_nil_iff.mpr hnone
  have hsub : sub (fun s => (reference named s).map fun r => (r.1.getD [], r.2)) t = t := by
    apply sub_of_forall
    intro u v huv hv
    rw [hnone u v huv hv, Option.map_none]
  rw [unescape, hfind, hsub]
  rfl

end Html
