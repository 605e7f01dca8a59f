import NetgearSwitch.Snmp.Write
import NetgearSwitch.Virtual.OidRows

/-!
# SNMP agents

An agent answers reads from the varbinds it holds, and SETs as it likes.  A transport hands an
octet string on as text where every octet is printable, so of a PortList the writer finds the
device's own octets only where one of them is not.

§1 agents · §2 what a walk brings · §3 runs on an agent
-/

namespace NetgearSwitch.Snmp

open PyText Virtual Script

/-! ## §1 Agents -/

/-- The two SNMP clients. -/
inductive Transport
  | netsnmp
  | pysnmp
  deriving DecidableEq

/-- The row a client makes of a varbind. -/
def Transport.row : Transport → AgentVarbind → SnmpRow
  | .netsnmp => netsnmpRow
  | .pysnmp => normalizeVarbind

/-- The octets of an octet string. -/
def SmiValue.octets? : SmiValue → Option Bytes
  | .octetString raw => some raw
  | _ => none

/-- Octets a client hands on as octets: one of them is not printable. -/
def Binary (raw : Bytes) : Prop := ∃ b ∈ raw, isPrintable b = false

instance (raw : Bytes) : Decidable (Binary raw) := inferInstanceAs (Decidable (∃ b ∈ raw, _))

/-- What an agent holds: one value an OID. -/
structure Mib where
  varbinds : List AgentVarbind
  nodup : (varbinds.map AgentVarbind.oid).Nodup

namespace Mib

/-- The varbinds strictly below `base`. -/
def below (mib : Mib) (base : Oid) : List AgentVarbind :=
  mib.varbinds.filter fun vb => base.isPrefixOf vb.oid && vb.oid != base

/-- The rows a walk of `base` brings. -/
def rows (mib : Mib) (t : Transport) (base : Oid) : List SnmpRow := (mib.below base).map t.row

/-- The row of one instance, which is an error where the agent has none. -/
def row (mib : Mib) (t : Transport) (base : Oid) (index : ℤ) : SnmpReply :=
  if index < 0 then .error .snmp
  else (orRaise .snmp (mib.varbinds.find? (·.oid = instanceOid base index))).map fun vb => [t.row vb]

/-- `get_vlans` on what the agent holds. -/
def vlans (mib : Mib) (t : Transport) : Except LibError (List VLANInfo) :=
  parseVlans (mib.rows t dot1qVlanStaticName) (mib.rows t dot1qVlanStaticEgress)
    (mib.rows t dot1qVlanStaticUntagged) (mib.rows t ifType) (mib.rows t dot1qVlanCurrentEgress)
    (mib.rows t dot1qVlanCurrentUntagged)

/-- The octet string the agent holds for instance `v` of a column. -/
def octets (mib : Mib) (column : Oid) (v : ℤ) : Option Bytes :=
  if v < 0 then none
  else mib.varbinds.findSome? fun vb =>
    if vb.oid = instanceOid column v then vb.value.octets? else none

end Mib

/-- An SNMP agent with a state of its own: what it holds, and what a SET does. -/
structure Agent (δ : Type) where
  mib : δ → Mib
  write : δ → List SetVarbind → δ × Except LibError Unit

/-- The agent as a client meets it. -/
def Agent.machine {δ : Type} (a : Agent δ) (t : Transport) : Machine δ SnmpRequest SnmpReply
  | d, .walk base => (d, .ok ((a.mib d).rows t base))
  | d, .get base index => (d, (a.mib d).row t base index)
  | d, .set varbinds => ((a.write d varbinds).1, (a.write d varbinds).2.map fun _ => [])

/-! ## §2 What a walk brings -/

theorem Transport.row_oid (t : Transport) (vb : AgentVarbind) :
    (t.row vb).oid = lstripChar '.' (oidText vb.oid) := by
  cases t <;> cases hvalue : vb.value <;>
    simp only [Transport.row, netsnmpRow, normalizeVarbind, hvalue]
  split <;> rfl

/-- Octets arrive as octets exactly where one of them is not printable. -/
theorem Transport.row_value_eq_bytes {t : Transport} {vb : AgentVarbind} {raw : Bytes} :
    (t.row vb).value = .bytes raw ↔ vb.value = .octetString raw ∧ Binary raw := by
  have hbinary : ∀ b : Bytes, ¬ b.all isPrintable = true ↔ Binary b := by
    intro b
    simp [Binary]
  cases hvalue : vb.value with
  | octetString b =>
    by_cases hprintable : b.all isPrintable = true
    · have hnot : ¬ (SmiValue.octetString b = .octetString raw ∧ Binary raw) := by
        rintro ⟨hb, hraw⟩
        cases hb
        exact (hbinary raw).mpr hraw hprintable
      refine iff_of_false ?_ hnot
      cases t <;>
        simp only [Transport.row, netsnmpRow, normalizeVarbind, octetValue, hvalue,
          if_pos hprintable, reduceCtorEq, not_false_eq_true]
    · have hraw := (hbinary b).mp hprintable
      have hrow : (t.row vb).value = .bytes b := by
        cases t <;>
          simp only [Transport.row, netsnmpRow, normalizeVarbind, octetValue, hvalue,
            if_neg hprintable]
      rw [hrow]
      constructor
      · rintro h
        cases h
        exact ⟨rfl, hraw⟩
      · rintro ⟨h, -⟩
        cases h
        rfl
  | _ =>
    cases t <;>
      simp only [Transport.row, netsnmpRow, normalizeVarbind, hvalue, reduceCtorEq, false_and]

theorem suffix_oidText {base rest : Oid} (hbase : base ≠ []) (hrest : rest ≠ []) :
    suffix base (oidText (base ++ rest)) = some (oidText rest) := by
  have hparts : oidParts (base ++ rest) = oidParts base ++ oidParts rest := List.map_append
  show suffix base (joinDot (oidParts (base ++ rest))) = _
  rw [suffix_joinDot hbase (fun _ h => not_mem_oidParts h), hparts,
    afterParts?_self (by simpa [oidParts] using hrest)]
  rfl

/-- A text of digits alone is a single number. -/
theorem eq_singleton_of_isDigits {rest : Oid} (h : isDigits (oidText rest) = true) :
    ∃ n, rest = [n] := by
  rcases rest with _ | ⟨n, _ | ⟨m, rest⟩⟩
  · cases h
  · exact ⟨n, rfl⟩
  · rw [oidText_cons_cons] at h
    have hall := (Bool.and_eq_true_iff.mp h).2
    have hdot := List.all_eq_true.mp hall '.' (by simp)
    exact absurd hdot (by decide)

theorem oidText_concat {base : Oid} (hbase : base ≠ []) (n : ℕ) :
    oidText (base ++ [n]) = oidText base ++ '.' :: natText n := by
  induction base with
  | nil => exact absurd rfl hbase
  | cons m base ih =>
    cases base with
    | nil => simp
    | cons k base =>
      have htail := ih (List.cons_ne_nil _ _)
      rw [List.cons_append, List.cons_append, oidText_cons_cons, oidText_cons_cons,
        ← List.cons_append, htail, List.append_assoc, List.cons_append]

/-- Which instance a row's OID text ends with. -/
theorem dotted_isSuffix_iff {base : Oid} (hbase : base ≠ []) {n k : ℕ} :
    '.' :: natText n <:+ oidText (base ++ [k]) ↔ n = k := by
  rw [oidText_concat hbase]
  constructor
  · intro hn
    have hk : '.' :: natText k <:+ oidText base ++ '.' :: natText k := List.suffix_append _ _
    rcases List.suffix_or_suffix_of_suffix hn hk with h | h
    · rcases List.suffix_cons_iff.mp h with h | h
      · exact natText_injective (List.cons.inj h).2
      · exact absurd (h.subset List.mem_cons_self) (not_mem_natText k)
    · rcases List.suffix_cons_iff.mp h with h | h
      · exact (natText_injective (List.cons.inj h).2).symm
      · exact absurd (h.subset List.mem_cons_self) (not_mem_natText n)
  · rintro rfl
    exact List.suffix_append _ _

namespace Mib

variable {mib : Mib} {t : Transport}

theorem mem_below {base : Oid} {vb : AgentVarbind} :
    vb ∈ mib.below base ↔ vb ∈ mib.varbinds ∧ ∃ rest, rest ≠ [] ∧ vb.oid = base ++ rest := by
  rw [below, List.mem_filter, Bool.and_eq_true, List.isPrefixOf_iff_prefix, bne_iff_ne]
  apply and_congr_right
  intro _
  constructor
  · rintro ⟨⟨rest, hrest⟩, hne⟩
    refine ⟨rest, ?_, hrest.symm⟩
    rintro rfl
    exact hne (by simpa using hrest.symm)
  · rintro ⟨rest, hrest, hoid⟩
    refine ⟨⟨rest, hoid.symm⟩, ?_⟩
    rw [hoid]
    simpa using hrest

/-- The first hit in a list where one element alone can hit. -/
theorem findSome?_of_unique {α β : Type} {f : α → Option β} {x : α} :
    ∀ {l : List α}, x ∈ l → (∀ y ∈ l, y ≠ x → f y = none) → l.findSome? f = f x
  | y :: l, hx, hother => by
    by_cases hy : y = x
    · subst hy
      cases hf : f y with
      | some b => rw [List.findSome?_cons, hf]
      | none =>
        rw [List.findSome?_eq_none_iff]
        intro z hz
        by_cases hzy : z = y
        · rw [hzy, hf]
        · exact hother z hz hzy
    · have hl : x ∈ l := (List.mem_cons.mp hx).resolve_left (Ne.symm hy)
      rw [List.findSome?_cons, hother y List.mem_cons_self hy]
      exact findSome?_of_unique hl fun z hz => hother z (List.mem_cons_of_mem _ hz)

/-- In a column that reads, a row that counts for VLAN `v` is the one of instance `v`. -/
theorem oid_of_octetsOf {base : Oid} (hbase : base ≠ []) {d : PyDict ℤ SnmpValue} {v : ℤ}
    (hread : vlanBitmapMap (mib.rows t base) base = .ok d) {vb : AgentVarbind}
    (hvb : vb ∈ mib.below base) {raw : Bytes}
    (hraw : SnmpWriter.octetsOf v (t.row vb) = some raw) :
    0 ≤ v ∧ vb.oid = instanceOid base v := by
  obtain ⟨-, rest, hrest, hoid⟩ := mem_below.mp hvb
  have hrow : t.row vb ∈ mib.rows t base := List.mem_map_of_mem hvb
  have htext : (t.row vb).oid = oidText (base ++ rest) := by
    rw [t.row_oid, hoid, lstripChar_oidText]
  obtain ⟨e, he⟩ := entry_of_readColumn hread hrow (s := oidText rest)
    (by rw [htext, suffix_oidText hbase hrest])
  have hdigits : isDigits (oidText rest) = true := by
    by_contra hdigits
    have hnot : (!isDigits (oidText rest)) = true := by
      rw [Bool.not_eq_true', Bool.eq_false_iff]
      exact hdigits
    unfold bitmapEntry at he
    rw [if_pos hnot] at he
    cases he
  obtain ⟨k, rfl⟩ := eq_singleton_of_isDigits hdigits
  have hsuffix : '.' :: intText v <:+ oidText (base ++ [k]) := by
    unfold SnmpWriter.octetsOf at hraw
    split at hraw
    next b _ =>
      rw [← htext, ← List.isSuffixOf_iff_suffix]
      by_contra hnot
      rw [if_neg hnot] at hraw
      cases hraw
    next => cases hraw
  have hv : 0 ≤ v := by
    by_contra hneg
    have hminus : '-' ∈ oidText (base ++ [k]) := by
      apply hsuffix.subset
      rw [intText, if_pos (by omega)]
      exact List.mem_cons_of_mem _ List.mem_cons_self
    rcases mem_oidText hminus with h | h
    · exact absurd h (by decide)
    · exact absurd h (by decide)
  obtain ⟨n, rfl⟩ := Int.eq_ofNat_of_zero_le hv
  rw [intText_natCast, dotted_isSuffix_iff hbase] at hsuffix
  subst hsuffix
  exact ⟨hv, hoid⟩

/-- The row of instance `v` counts where its octets arrive as octets. -/
theorem octetsOf_row {base : Oid} (hbase : base ≠ []) {v : ℤ} (hv : 0 ≤ v) {vb : AgentVarbind}
    (hvb : vb.oid = instanceOid base v) :
    SnmpWriter.octetsOf v (t.row vb) = vb.value.octets?.filter fun raw => decide (Binary raw) := by
  have hsuffix : ('.' :: intText v).isSuffixOf (t.row vb).oid = true := by
    obtain ⟨n, rfl⟩ := Int.eq_ofNat_of_zero_le hv
    rw [List.isSuffixOf_iff_suffix, t.row_oid, lstripChar_oidText, intText_natCast, hvb]
    exact (dotted_isSuffix_iff hbase).mpr rfl
  unfold SnmpWriter.octetsOf
  split
  next raw hraw =>
    obtain ⟨hvalue, hbinary⟩ := Transport.row_value_eq_bytes.mp hraw
    rw [if_pos hsuffix, hvalue]
    exact (if_pos (decide_eq_true hbinary)).symm
  next hnot =>
    symm
    rw [Option.filter_eq_none_iff]
    intro raw hraw hbinary
    cases hvalue : vb.value with
    | octetString b =>
      rw [hvalue] at hraw
      cases hraw
      exact hnot raw (Transport.row_value_eq_bytes.mpr ⟨hvalue, of_decide_eq_true hbinary⟩)
    | _ =>
      rw [hvalue] at hraw
      cases hraw

/-- `_raw_bitmap` finds the list the agent holds where one of its octets is not printable. -/
theorem findSome?_octetsOf {base : Oid} (hbase : base ≠ []) {d : PyDict ℤ SnmpValue} (v : ℤ)
    (hread : vlanBitmapMap (mib.rows t base) base = .ok d) :
    (mib.rows t base).findSome? (SnmpWriter.octetsOf v) =
      (mib.octets base v).filter fun raw => decide (Binary raw) := by
  have hnone : ∀ vb ∈ mib.below base, ¬ (0 ≤ v ∧ vb.oid = instanceOid base v) →
      SnmpWriter.octetsOf v (t.row vb) = none := by
    intro vb hvb hnot
    cases hraw : SnmpWriter.octetsOf v (t.row vb) with
    | none => rfl
    | some raw => exact absurd (oid_of_octetsOf hbase hread hvb hraw) hnot
  rw [rows, List.findSome?_map]
  by_cases hv : v < 0
  · rw [octets, if_pos hv, Option.filter_none, List.findSome?_eq_none_iff]
    exact fun vb hvb => hnone vb hvb fun h => absurd h.1 (by omega)
  rw [octets, if_neg hv]
  by_cases hvb : ∃ vb ∈ mib.varbinds, vb.oid = instanceOid base v
  · obtain ⟨vb, hmem, hvb⟩ := hvb
    have hunique : ∀ vb' ∈ mib.varbinds, vb'.oid = instanceOid base v → vb' = vb :=
      fun vb' hmem' h => List.inj_on_of_nodup_map mib.nodup hmem' hmem (h.trans hvb.symm)
    have hbelow : vb ∈ mib.below base :=
      mem_below.mpr ⟨hmem, [v.toNat], List.cons_ne_nil _ _, hvb⟩
    have hleft := findSome?_of_unique (f := SnmpWriter.octetsOf v ∘ t.row) hbelow
      fun vb' hvb' hne => hnone vb' hvb' fun h => hne (hunique vb' (mem_below.mp hvb').1 h.2)
    have hright := findSome?_of_unique
      (f := fun vb => if vb.oid = instanceOid base v then vb.value.octets? else none) hmem
      fun vb' hmem' hne => if_neg fun h => hne (hunique vb' hmem' h)
    rw [hleft, hright, if_pos hvb]
    exact octetsOf_row hbase (not_lt.mp hv) hvb
  · have hright : (mib.varbinds.findSome? fun vb =>
        if vb.oid = instanceOid base v then vb.value.octets? else none) = none := by
      rw [List.findSome?_eq_none_iff]
      exact fun vb hmem => if_neg fun h => hvb ⟨vb, hmem, h⟩
    rw [hright, Option.filter_none, List.findSome?_eq_none_iff]
    exact fun vb hbelow => hnone vb hbelow fun h => hvb ⟨vb, (mem_below.mp hbelow).1, h.2⟩

end Mib

/-! ## §3 Runs on an agent -/

theorem ends_request {δ : Type} {m : Machine δ SnmpRequest SnmpReply} {d d' : δ} {q : SnmpRequest}
    {answer : SnmpReply} (h : m d q = (d', answer)) :
    Ends m (request q) d answer d' :=
  (ends_call h).bind (ends_done _)

section Agents

variable {δ : Type} (a : Agent δ) (t : Transport) (d : δ)

theorem ends_walk (base : Oid) :
    Ends (a.machine t) (request (.walk base)) d (.ok ((a.mib d).rows t base)) d :=
  ends_request rfl

theorem ends_getVlans : Ends (a.machine t) SnmpReader.getVlans d ((a.mib d).vlans t) d := by
  unfold SnmpReader.getVlans
  apply (ends_walk a t d _).bind
  apply (ends_walk a t d _).bind
  apply (ends_walk a t d _).bind
  apply (ends_walk a t d _).bind
  apply (ends_walk a t d _).bind
  apply (ends_walk a t d _).bind
  exact ends_done _

theorem ends_rawBitmap (base : Oid) (v : ℤ) :
    Ends (a.machine t) (SnmpWriter.rawBitmap base v) d
      (.ok (((a.mib d).rows t base).findSome? (SnmpWriter.octetsOf v))) d :=
  (ends_walk a t d base).bind (ends_done _)

end Agents

end NetgearSwitch.Snmp
