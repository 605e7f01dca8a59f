import Mathlib.Data.List.Lex
import NetgearSwitch.Lib.SortedWalk
import NetgearSwitch.Virtual.OidRows
import NetgearSwitch.Virtual.ViewRuns

/-!
# Walking the MIB view

`get` and `get_next` of `StateMibView` over a map whose OIDs are numbers as `str` prints them.
Two texts of the map are then two OIDs, the view is a table in the strict order of its OIDs, and
a walk through it meets every entry above its base once and comes to an end.
-/

namespace NetgearSwitch.Virtual

open Snmp PyText SortedWalk

/-! ## §1 The order of OIDs -/

theorem oidLe_iff {a b : List ℤ} : oidLe a b = true ↔ a ≤ b := by
  rw [← not_lt]
  induction a generalizing b with
  | nil => simp [oidLe]
  | cons n a ih =>
    cases b with
    | nil => simp [oidLe]
    | cons m b =>
      rw [List.cons_lt_cons_iff]
      simp only [oidLe, Bool.or_eq_true, Bool.and_eq_true, decide_eq_true_eq, ih]
      grind

namespace StateMibView

variable {view : StateMibView} {oid : List ℤ}

/-- The first entry above an OID is the table's next one. -/
theorem getNext_eq : view.getNext oid = next MibEntry.oid view.entries oid := by
  rw [getNext, next]
  refine congrArg (List.find? · view.entries) (funext fun e => ?_)
  rw [Bool.eq_iff_iff, Bool.not_eq_true', ← Bool.not_eq_true, oidLe_iff, not_le]
  exact (@decide_eq_true_iff _ (_)).symm

theorem get_eq : view.get oid = lookup MibEntry.oid view.entries oid := by
  have hle : (fun e : MibEntry => oidLe oid e.oid) =
      fun e => @decide (oid ≤ e.oid) (LinearOrder.toDecidableLE oid e.oid) := by
    funext e
    rw [Bool.eq_iff_iff, oidLe_iff]
    exact (@decide_eq_true_iff _ (_)).symm
  rw [get, hle, lookup]
  refine congrArg (Option.filter · _) (funext fun e => ?_)
  exact Bool.eq_iff_iff.mpr ((@decide_eq_true_iff _ (_)).trans (@decide_eq_true_iff _ (_)).symm)

end StateMibView

/-! ## §2 Numeric maps -/

/-- An OID all of whose parts are integers as `str` prints them. -/
def IsNumeric (oid : OidText) : Prop := ∀ part ∈ oid, (pyInt part).map intText = some part

instance (oid : OidText) : Decidable (IsNumeric oid) := List.decidableBAll _ oid

/-- Every OID of the map is numeric. -/
def WellFormedMap (m : PyDict OidText MibValue) : Prop := ∀ oid ∈ m.keys, IsNumeric oid

instance (m : PyDict OidText MibValue) : Decidable (WellFormedMap m) := List.decidableBAll _ m.keys

theorem oidToTuple_intText (ns : List ℤ) : oidToTuple (ns.map intText) = some ns := by
  induction ns with
  | nil => rfl
  | cons n ns ih =>
    rw [oidToTuple] at ih ⊢
    rw [List.map_cons, List.mapM_cons, spelledInt_intText, ih]
    rfl

/-- A numeric OID is the text of the integers it is read as. -/
theorem IsNumeric.eq_map {oid : OidText} (h : IsNumeric oid) :
    ∃ ns : List ℤ, oid = ns.map intText := by
  induction oid with
  | nil => exact ⟨[], rfl⟩
  | cons part oid ih =>
    obtain ⟨n, _, hn⟩ := Option.map_eq_some_iff.mp (h part List.mem_cons_self)
    obtain ⟨ns, rfl⟩ := ih fun p hp => h p (List.mem_cons_of_mem _ hp)
    exact ⟨n :: ns, by rw [List.map_cons, hn]⟩

/-- The entry of a row with a numeric OID. -/
def entryOf (row : MibRow) : MibEntry := ⟨(oidToTuple row.1).getD [], row.2⟩

theorem mapM_ofRow {rows : List MibRow} (h : ∀ row ∈ rows, IsNumeric row.1) :
    rows.mapM MibEntry.ofRow = some (rows.map entryOf) := by
  induction rows with
  | nil => rfl
  | cons row rows ih =>
    obtain ⟨ns, hns⟩ := (h row List.mem_cons_self).eq_map
    have hrow : MibEntry.ofRow row = some (entryOf row) := by
      rw [MibEntry.ofRow, entryOf, hns, oidToTuple_intText]
      rfl
    rw [List.mapM_cons, hrow, ih fun r hr => h r (List.mem_cons_of_mem _ hr)]
    rfl

section Entries

variable {m : PyDict OidText MibValue}

theorem mem_map_entryOf (h : WellFormedMap m) {e : MibEntry} :
    e ∈ m.items.map entryOf ↔ m.get? (e.oid.map intText) = some e.value := by
  rw [List.mem_map]
  constructor
  · rintro ⟨row, hrow, rfl⟩
    obtain ⟨ns, hns⟩ := (h row.1 (List.mem_map_of_mem hrow)).eq_map
    have hoid : (entryOf row).oid = ns := by
      rw [entryOf, hns, oidToTuple_intText]
      rfl
    rw [hoid, ← hns]
    exact PyDict.mem_items_iff.mp hrow
  · intro hget
    refine ⟨(e.oid.map intText, e.value), PyDict.mem_items_iff.mpr hget, ?_⟩
    rw [entryOf, oidToTuple_intText]
    rfl

/-- No two rows of a numeric map have the same OID. -/
theorem nodup_oid_entryOf (h : WellFormedMap m) :
    ((m.items.map entryOf).map MibEntry.oid).Nodup := by
  rw [List.map_map]
  have hkeys : (m.items.map fun row => row.1).Nodup := m.keys_nodup
  refine (List.nodup_map_iff_inj_on hkeys.of_map).mpr fun row hrow row' hrow' heq => ?_
  obtain ⟨ns, hns⟩ := (h row.1 (List.mem_map_of_mem hrow)).eq_map
  obtain ⟨ns', hns'⟩ := (h row'.1 (List.mem_map_of_mem hrow')).eq_map
  have hoid : ns = ns' := by
    have hentry : (oidToTuple row.1).getD [] = (oidToTuple row'.1).getD [] := heq
    rw [hns, hns', oidToTuple_intText, oidToTuple_intText] at hentry
    exact hentry
  have hkey : row.1 = row'.1 := by rw [hns, hns', hoid]
  exact List.inj_on_of_nodup_map hkeys hrow hrow' hkey

end Entries

/-! ## §3 The walk -/

/-- The view of a state whose map is numeric: a table in the strict order of its OIDs. -/
theorem exists_view {s s' : VirtualSwitchState} {m : PyDict OidText MibValue}
    (hmap : s.oidMap = (s', some m)) (h : WellFormedMap m) :
    ∃ view, StateMibView.ofState s = some view ∧ view.state = s' ∧
      Sorted MibEntry.oid view.entries ∧
      ∀ e, e ∈ view.entries ↔ m.get? (e.oid.map intText) = some e.value := by
  have hrows : m.items.mapM MibEntry.ofRow = some (m.items.map entryOf) :=
    mapM_ofRow fun row hrow => h row.1 (List.mem_map_of_mem hrow)
  have hload : loadView s =
      (s', some ((m.items.map entryOf).insertionSort fun a b => oidLe a.oid b.oid)) := by
    have hshort := VirtualSwitchState.oidTexts_of_oidMap hmap fun oid hoid part hpart => by
      obtain ⟨n, hn, -⟩ := Option.map_eq_some_iff.mp (h oid hoid part hpart)
      exact Option.isSome_iff_exists.mpr ⟨n, hn⟩
    rw [loadView, hmap]
    dsimp only
    rw [hshort, if_neg Bool.false_ne_true, hrows]
    rfl
  refine ⟨⟨s', (m.items.map entryOf).insertionSort fun a b => oidLe a.oid b.oid⟩, ?_, rfl, ?_, ?_⟩
  · rw [StateMibView.ofState, hload]
  · exact sorted_insertionSort (fun _ _ => oidLe_iff) (nodup_oid_entryOf h)
  · intro e
    rw [List.mem_insertionSort, mem_map_entryOf h]

/-- **A walk meets every entry once.**  Where every OID of the map is numeric, asking for the next
entry from any base on, and from each answer again, gives exactly the entries above the base in
the strict order of their OIDs, and then none; and a `get` answers exactly the entries of the
map. -/
theorem walk_complete {s s' : VirtualSwitchState} {m : PyDict OidText MibValue}
    (hmap : s.oidMap = (s', some m)) (h : WellFormedMap m) :
    ∃ view, StateMibView.ofState s = some view ∧ view.state = s' ∧
      (∀ base, ∃ es : List MibEntry,
        (∀ as, Walks view.getNext MibEntry.oid base as ↔ as = es) ∧
        es.Pairwise (fun a b => a.oid < b.oid) ∧
        ∀ oid value, ⟨oid, value⟩ ∈ es ↔ base < oid ∧ m.get? (oid.map intText) = some value) ∧
      ∀ oid e, view.get oid = some e ↔ e.oid = oid ∧ m.get? (oid.map intText) = some e.value := by
  obtain ⟨view, hview, hstate, hsorted, hmem⟩ := exists_view hmap h
  refine ⟨view, hview, hstate, fun base => ?_, fun oid e => ?_⟩
  · have hnext : view.getNext = next MibEntry.oid view.entries :=
      funext fun oid => StateMibView.getNext_eq
    obtain ⟨es, hes⟩ : ∃ es, es = view.entries.filter
        fun e => @decide (base < e.oid) (LinearOrder.toDecidableLT base e.oid) := ⟨_, rfl⟩
    refine ⟨es, fun as => ?_, ?_, fun oid value => ?_⟩
    · rw [hnext, hes]
      exact walks_next_iff hsorted
    · rw [hes]
      exact hsorted.filter _
    · rw [hes, List.mem_filter, hmem, and_comm]
      exact and_congr_left' (@decide_eq_true_iff _ (_))
  · rw [StateMibView.get_eq, lookup_eq_some hsorted, hmem]
    constructor
    · rintro ⟨hget, rfl⟩
      exact ⟨rfl, hget⟩
    · rintro ⟨rfl, hget⟩
      exact ⟨hget, rfl⟩

open StateMibView (onePortState) in
/-- The switch of one port walked from the root of the tree on. -/
theorem walk_complete_onePort :
    ∃ m, onePortState.oidMap.2 = some m ∧ WellFormedMap m ∧
      ∃ view, StateMibView.ofState onePortState = some view ∧ ∃ es : List MibEntry,
        (∀ as, Walks view.getNext MibEntry.oid [] as ↔ as = es) ∧
        ∀ oid value, ⟨oid, value⟩ ∈ es ↔ [] < oid ∧ m.get? (oid.map intText) = some value := by
  have hloads : onePortState.oidMap.2.isSome ∧
      ∀ m ∈ onePortState.oidMap.2, WellFormedMap m := by decide +kernel
  obtain ⟨m, hm⟩ := Option.isSome_iff_exists.mp hloads.1
  have hwell : WellFormedMap m := hloads.2 m hm
  have hmap : onePortState.oidMap = (onePortState.oidMap.1, some m) := Prod.ext rfl hm
  obtain ⟨view, hview, _, hwalk, _⟩ := walk_complete hmap hwell
  obtain ⟨es, hes, _, hmem⟩ := hwalk []
  exact ⟨m, hm, hwell, view, hview, es, hes, hmem⟩

end NetgearSwitch.Virtual
