import Mathlib.Data.List.Nodup
import Mathlib.Data.List.Perm.Basic
import Mathlib.Data.Finset.Sort

/-!
# Insertion-ordered dictionaries, sets in order, and list indices

A dictionary is the list of its items in insertion order, with distinct keys carried as a
field.  `set` overwrites in place or appends, `pop` drops an item, `mapValues` mutates every
value where it stands.  Everything proved about dictionaries goes through `get?`.

A set is a `Finset`; `PySet.sorted` lists one in ascending order.  A list is read and written at
an index that may count from its end.
-/

namespace PyList

variable {α : Type*}

/-- The place an index of a list of length `n` means, if it is in range. -/
def place? (n : ℕ) (i : ℤ) : Option ℕ :=
  if 0 ≤ i then (if i < n then some i.toNat else none)
  else if -n ≤ i then some (i + n).toNat else none

/-- `l[i]`, `none` where it raises `IndexError`. -/
def get? (l : List α) (i : ℤ) : Option α := (place? l.length i).bind (l[·]?)

/-- `l[i] = a`, of an index in range. -/
def set (l : List α) (i : ℤ) (a : α) : List α :=
  match place? l.length i with
  | some n => l.set n a
  | none => l

theorem get?_natCast (l : List α) (n : ℕ) : get? l (n : ℤ) = l[n]? := by
  rw [get?, place?, if_pos (Int.natCast_nonneg n)]
  split_ifs with hn
  · rw [Int.toNat_natCast, Option.bind_some]
  · rw [Option.bind_none, List.getElem?_eq_none (by omega)]

theorem set_natCast {l : List α} {n : ℕ} (h : n < l.length) (a : α) :
    set l (n : ℤ) a = l.set n a := by
  rw [set, place?, if_pos (Int.natCast_nonneg n), if_pos (by exact_mod_cast h),
    Int.toNat_natCast]

end PyList

namespace PySet

variable {α : Type*} [LinearOrder α]

/-- `sorted(s)`.  The list is that of `Finset.sort`, by an algorithm that evaluates in proofs. -/
def sorted (s : Finset α) : List α :=
  s.val.liftOn (List.insertionSort (· ≤ ·)) fun l l' h => by
    rw [← List.mergeSort_eq_insertionSort, ← List.mergeSort_eq_insertionSort]
    exact congrArg (fun m : Multiset α => m.sort) (Quotient.sound h)

theorem sorted_eq_sort (s : Finset α) : sorted s = s.sort := by
  obtain ⟨m, nodup⟩ := s
  induction m using Quot.inductionOn with
  | _ l => exact (List.mergeSort_eq_insertionSort (· ≤ ·) l).symm

@[simp] theorem mem_sorted {s : Finset α} {a : α} : a ∈ sorted s ↔ a ∈ s := by
  rw [sorted_eq_sort, Finset.mem_sort]

@[simp] theorem toFinset_sorted (s : Finset α) : (sorted s).toFinset = s := by
  rw [sorted_eq_sort, Finset.sort_toFinset]

theorem length_sorted (s : Finset α) : (sorted s).length = s.card := by
  rw [sorted_eq_sort, Finset.length_sort]

theorem nodup_sorted (s : Finset α) : (sorted s).Nodup := by
  rw [sorted_eq_sort]
  exact s.sort_nodup (· ≤ ·)

/-- The least element comes first. -/
theorem sorted_insert {a : α} {s : Finset α} (hle : ∀ b ∈ s, a ≤ b) (hnot : a ∉ s) :
    sorted (insert a s) = a :: sorted s := by
  rw [sorted_eq_sort, sorted_eq_sort, Finset.sort_insert (· ≤ ·) hle hnot]

theorem pairwise_sorted (s : Finset α) : (sorted s).Pairwise (· ≤ ·) := by
  rw [sorted_eq_sort]
  exact Finset.pairwise_sort s (· ≤ ·)

end PySet

/-- A finite map that remembers the order its keys were inserted in. -/
structure PyDict (κ : Type*) (α : Type*) where
  items : List (κ × α)
  nodup : (items.map Prod.fst).Nodup
  deriving DecidableEq

namespace PyDict

variable {κ α β : Type*}

@[ext] theorem ext {d e : PyDict κ α} (h : d.items = e.items) : d = e := by
  cases d
  cases e
  cases h
  rfl

/-- The empty dictionary. -/
def empty : PyDict κ α := ⟨[], List.nodup_nil⟩

instance : EmptyCollection (PyDict κ α) := ⟨empty⟩
instance : Inhabited (PyDict κ α) := ⟨empty⟩

/-- The keys, in insertion order. -/
def keys (d : PyDict κ α) : List κ := d.items.map Prod.fst

theorem keys_nodup (d : PyDict κ α) : d.keys.Nodup := d.nodup

instance : Membership κ (PyDict κ α) := ⟨fun d k => k ∈ d.keys⟩

theorem mem_def {d : PyDict κ α} {k : κ} : k ∈ d ↔ k ∈ d.keys := Iff.rfl

/-- Mutate every value in place; the keys and their order stay. -/
def mapValues (f : κ → α → β) (d : PyDict κ α) : PyDict κ β where
  items := d.items.map fun e => (e.1, f e.1 e.2)
  nodup := by simpa [Function.comp_def] using d.nodup

@[simp] theorem keys_mapValues (f : κ → α → β) (d : PyDict κ α) :
    (d.mapValues f).keys = d.keys := by
  simp [keys, mapValues, Function.comp_def]

@[simp] theorem mem_mapValues {f : κ → α → β} {d : PyDict κ α} {k : κ} :
    k ∈ d.mapValues f ↔ k ∈ d := by
  simp only [mem_def, keys_mapValues]

theorem mapValues_mapValues {γ : Type*} (f : κ → α → β) (g : κ → β → γ) (d : PyDict κ α) :
    (d.mapValues f).mapValues g = d.mapValues fun k a => g k (f k a) := by
  apply PyDict.ext
  simp [mapValues, Function.comp_def]

variable [DecidableEq κ]

instance (d : PyDict κ α) (k : κ) : Decidable (k ∈ d) := inferInstanceAs (Decidable (k ∈ d.keys))

private def lookup (k : κ) : List (κ × α) → Option α
  | [] => none
  | e :: es => if e.1 = k then some e.2 else lookup k es

/-- `d.get(k)`. -/
def get? (d : PyDict κ α) (k : κ) : Option α := lookup k d.items

private def overwrite (k : κ) (a : α) : List (κ × α) → List (κ × α)
  | [] => [(k, a)]
  | e :: es => if e.1 = k then (k, a) :: es else e :: overwrite k a es

private theorem fst_overwrite (k : κ) (a : α) (es : List (κ × α)) :
    (overwrite k a es).map Prod.fst =
      if k ∈ es.map Prod.fst then es.map Prod.fst else es.map Prod.fst ++ [k] := by
  induction es with
  | nil => simp [overwrite]
  | cons e es ih =>
    by_cases he : e.1 = k
    · simp [overwrite, he]
    · have he' : ¬ k = e.1 := fun h => he h.symm
      simp only [overwrite, he, if_false, List.map_cons, ih, List.mem_cons, he', false_or]
      split <;> rfl

/-- `d[k] = a`. -/
def set (d : PyDict κ α) (k : κ) (a : α) : PyDict κ α where
  items := overwrite k a d.items
  nodup := by
    rw [fst_overwrite]
    split
    · exact d.nodup
    · next hk => exact d.nodup.append (List.nodup_singleton k) (by simpa using hk)

/-- `dict(entries)`: a later entry of a key overwrites the earlier one's value. -/
def ofList (entries : List (κ × α)) : PyDict κ α :=
  entries.foldl (fun d e => d.set e.1 e.2) ∅

/-- `d.pop(k, None)`. -/
def pop (d : PyDict κ α) (k : κ) : PyDict κ α where
  items := d.items.filter fun e => e.1 ≠ k
  nodup := (d.nodup.sublist (List.Sublist.map _ List.filter_sublist))

/-- `sorted(d.items())`. -/
def sortedItems [LinearOrder κ] (d : PyDict κ α) : List (κ × α) :=
  (PySet.sorted d.keys.toFinset).filterMap fun k => (d.get? k).map (k, ·)

/-- `d.setdefault(k, a)`. -/
def setDefault (d : PyDict κ α) (k : κ) (a : α) : PyDict κ α :=
  if k ∈ d then d else d.set k a

/-- `d[k] = f(d[k])` where `k` is there. -/
def modify (d : PyDict κ α) (k : κ) (f : α → α) : PyDict κ α :=
  d.mapValues fun k' a => if k' = k then f a else a

/-! ## `get?` of every operation -/

@[simp] theorem get?_empty (k : κ) : (∅ : PyDict κ α).get? k = none := rfl

private theorem lookup_overwrite (k k' : κ) (a : α) (es : List (κ × α)) :
    lookup k' (overwrite k a es) = if k' = k then some a else lookup k' es := by
  induction es with
  | nil => simp [overwrite, lookup, eq_comm]
  | cons e es ih =>
    by_cases he : e.1 = k
    · by_cases hk : k = k'
      · simp [overwrite, lookup, he, hk]
      · simp [overwrite, lookup, he, hk, Ne.symm hk]
    · by_cases hk : e.1 = k'
      · have : ¬ k' = k := fun h => he (hk.trans h)
        simp [overwrite, lookup, hk, this]
      · simp [overwrite, lookup, he, hk, ih]

theorem get?_set (d : PyDict κ α) (k k' : κ) (a : α) :
    (d.set k a).get? k' = if k' = k then some a else d.get? k' :=
  lookup_overwrite k k' a d.items

@[simp] theorem get?_set_self (d : PyDict κ α) (k : κ) (a : α) :
    (d.set k a).get? k = some a := by
  simp [get?_set]

theorem get?_set_ne (d : PyDict κ α) {k k' : κ} (a : α) (h : k' ≠ k) :
    (d.set k a).get? k' = d.get? k' := by
  simp [get?_set, h]

private theorem lookup_filter (k k' : κ) (es : List (κ × α)) :
    lookup k' (es.filter fun e => e.1 ≠ k) = if k' = k then none else lookup k' es := by
  induction es with
  | nil => simp [lookup]
  | cons e es ih =>
    by_cases he : e.1 = k
    · by_cases hk : k = k'
      · rw [List.filter_cons_of_neg (by simpa using he), ih]
        simp [hk]
      · have hk' : ¬ k' = k := fun h => hk h.symm
        rw [List.filter_cons_of_neg (by simpa using he), ih]
        simp [lookup, he, hk, hk']
    · rw [List.filter_cons_of_pos (by simpa using he), lookup, ih]
      by_cases hk : e.1 = k'
      · have : ¬ k' = k := fun h => he (hk.trans h)
        simp [lookup, hk, this]
      · simp [lookup, hk]

theorem get?_pop (d : PyDict κ α) (k k' : κ) :
    (d.pop k).get? k' = if k' = k then none else d.get? k' :=
  lookup_filter k k' d.items

private theorem lookup_map (f : κ → α → β) (k : κ) (es : List (κ × α)) :
    lookup k (es.map fun e => (e.1, f e.1 e.2)) = (lookup k es).map (f k) := by
  induction es with
  | nil => rfl
  | cons e es ih =>
    by_cases he : e.1 = k
    · simp [lookup, he]
    · simpa [lookup, he] using ih

@[simp] theorem get?_mapValues (f : κ → α → β) (d : PyDict κ α) (k : κ) :
    (d.mapValues f).get? k = (d.get? k).map (f k) :=
  lookup_map f k d.items

theorem get?_modify (d : PyDict κ α) (k k' : κ) (f : α → α) :
    (d.modify k f).get? k' = if k' = k then (d.get? k).map f else d.get? k' := by
  by_cases h : k' = k
  · simp [modify, h]
  · simp [modify, h]

/-! ## Keys -/

private theorem lookup_isSome (k : κ) (es : List (κ × α)) :
    (lookup k es).isSome ↔ k ∈ es.map Prod.fst := by
  induction es with
  | nil => simp [lookup]
  | cons e es ih =>
    by_cases he : e.1 = k
    · simp [lookup, he]
    · have he' : ¬ k = e.1 := fun h => he h.symm
      simp only [lookup, he, if_false, ih, List.map_cons, List.mem_cons, he', false_or]

theorem mem_iff_isSome {d : PyDict κ α} {k : κ} : k ∈ d ↔ (d.get? k).isSome :=
  (lookup_isSome k d.items).symm

theorem mem_iff {d : PyDict κ α} {k : κ} : k ∈ d ↔ ∃ a, d.get? k = some a := by
  rw [mem_iff_isSome, Option.isSome_iff_exists]

theorem not_mem_iff {d : PyDict κ α} {k : κ} : k ∉ d ↔ d.get? k = none := by
  rw [mem_iff_isSome, Option.not_isSome_iff_eq_none]

@[simp] theorem mem_set {d : PyDict κ α} {k k' : κ} {a : α} :
    k' ∈ d.set k a ↔ k' = k ∨ k' ∈ d := by
  rw [mem_iff_isSome, mem_iff_isSome, get?_set]
  by_cases h : k' = k <;> simp [h]

@[simp] theorem mem_pop {d : PyDict κ α} {k k' : κ} : k' ∈ d.pop k ↔ k' ≠ k ∧ k' ∈ d := by
  rw [mem_iff_isSome, mem_iff_isSome, get?_pop]
  by_cases h : k' = k <;> simp [h]

@[simp] theorem mem_modify {d : PyDict κ α} {k k' : κ} {f : α → α} :
    k' ∈ d.modify k f ↔ k' ∈ d := mem_mapValues

/-- Overwriting a key that is there keeps the keys as they stand. -/
theorem keys_set_of_mem {d : PyDict κ α} {k : κ} (a : α) (h : k ∈ d) :
    (d.set k a).keys = d.keys :=
  (fst_overwrite k a d.items).trans (if_pos h)

theorem get?_setDefault (d : PyDict κ α) (k k' : κ) (a : α) :
    (d.setDefault k a).get? k' = if k' = k then some ((d.get? k).getD a) else d.get? k' := by
  unfold setDefault
  by_cases hk : k ∈ d
  · obtain ⟨b, hb⟩ := mem_iff.mp hk
    by_cases h : k' = k <;> simp [hk, hb, h]
  · by_cases h : k' = k
    · simp [hk, h, not_mem_iff.mp hk]
    · simp [hk, h, get?_set]

@[simp] theorem mem_setDefault {d : PyDict κ α} {k k' : κ} {a : α} :
    k' ∈ d.setDefault k a ↔ k' = k ∨ k' ∈ d := by
  rw [mem_iff_isSome, mem_iff_isSome, get?_setDefault]
  by_cases h : k' = k <;> simp [h]

/-- An item of the dictionary is what `get?` answers for its key. -/
theorem get?_of_mem_items {d : PyDict κ α} {k : κ} {a : α} (h : (k, a) ∈ d.items) :
    d.get? k = some a := by
  obtain ⟨items, nodup⟩ := d
  induction items with
  | nil => cases h
  | cons e es ih =>
    rcases List.mem_cons.mp h with rfl | h
    · simp [get?, lookup]
    · have hne : e.1 ≠ k := by
        rintro rfl
        exact (List.nodup_cons.mp nodup).1 (List.mem_map.mpr ⟨_, h, rfl⟩)
      simpa [get?, lookup, hne] using ih (List.nodup_cons.mp nodup).2 h

theorem mem_items_of_get? {d : PyDict κ α} {k : κ} {a : α} (h : d.get? k = some a) :
    (k, a) ∈ d.items := by
  obtain ⟨items, nodup⟩ := d
  induction items with
  | nil => cases h
  | cons e es ih =>
    by_cases he : e.1 = k
    · have ha : e.2 = a := by simpa [get?, lookup, he] using h
      exact List.mem_cons.mpr (Or.inl (by rw [← he, ← ha]))
    · have h' : lookup k es = some a := by simpa [get?, lookup, he] using h
      exact List.mem_cons.mpr (Or.inr (ih (List.nodup_cons.mp nodup).2 h'))

theorem mem_items_iff {d : PyDict κ α} {k : κ} {a : α} : (k, a) ∈ d.items ↔ d.get? k = some a :=
  ⟨get?_of_mem_items, mem_items_of_get?⟩

theorem mem_sortedItems [LinearOrder κ] {d : PyDict κ α} {k : κ} {a : α} :
    (k, a) ∈ d.sortedItems ↔ d.get? k = some a := by
  rw [sortedItems, List.mem_filterMap]
  constructor
  · rintro ⟨k', _, h⟩
    obtain ⟨a', ha', he⟩ := Option.map_eq_some_iff.mp h
    cases he
    exact ha'
  · intro h
    have hk : k ∈ d := mem_iff.mpr ⟨a, h⟩
    refine ⟨k, ?_, by rw [h]; rfl⟩
    rw [PySet.mem_sorted, List.mem_toFinset]
    exact hk

theorem keys_sortedItems [LinearOrder κ] (d : PyDict κ α) :
    d.sortedItems.map Prod.fst = PySet.sorted d.keys.toFinset := by
  rw [sortedItems, List.map_filterMap]
  have hkeys : (PySet.sorted d.keys.toFinset).filterMap
      (fun k => ((d.get? k).map (k, ·)).map Prod.fst) =
        (PySet.sorted d.keys.toFinset).filterMap some := by
    refine List.filterMap_congr fun k hk => ?_
    rw [PySet.mem_sorted, List.mem_toFinset] at hk
    obtain ⟨a, ha⟩ := mem_iff.mp hk
    rw [ha]
    rfl
  rw [hkeys, List.filterMap_some]

/-- Looking a key up among the sorted entries. -/
theorem find?_sortedItems [LinearOrder κ] (d : PyDict κ α) (k : κ) :
    (d.sortedItems.find? fun e => decide (e.1 = k)) = (d.get? k).map fun a => (k, a) := by
  cases hget : d.get? k with
  | none =>
    refine List.find?_eq_none.mpr fun e he hk => ?_
    obtain rfl : e.1 = k := of_decide_eq_true hk
    rw [mem_sortedItems.mp he] at hget
    cases hget
  | some a =>
    cases hfind : d.sortedItems.find? fun e => decide (e.1 = k) with
    | none =>
      have hno := List.find?_eq_none.mp hfind (k, a) (mem_sortedItems.mpr hget)
      exact absurd (decide_eq_true rfl) hno
    | some e =>
      obtain ⟨k', a'⟩ := e
      have hkey := List.find?_some hfind
      obtain rfl : k' = k := of_decide_eq_true hkey
      have hget' := mem_sortedItems.mp (List.mem_of_find?_eq_some hfind)
      rw [hget] at hget'
      cases hget'
      rfl

theorem length_sortedItems [LinearOrder κ] (d : PyDict κ α) :
    d.sortedItems.length = (PySet.sorted d.keys.toFinset).length := by
  rw [← keys_sortedItems, List.length_map]

/-- There are no more items than keys to choose from. -/
theorem length_sortedItems_le [LinearOrder κ] {d : PyDict κ α} {keys : Finset κ}
    (h : ∀ k ∈ d, k ∈ keys) : d.sortedItems.length ≤ keys.card := by
  rw [length_sortedItems, ← List.toFinset_card_of_nodup (PySet.nodup_sorted _)]
  refine Finset.card_le_card fun k hk => h k (mem_def.mpr ?_)
  exact List.mem_toFinset.mp (PySet.mem_sorted.mp (List.mem_toFinset.mp hk))

/-- A row of its own key is the last one of that key. -/
theorem find?_reverse_sortedItems [LinearOrder κ] {γ : Type*} (d : PyDict κ α) (f : κ × α → γ)
    (p : γ → Bool) (k : κ) (hp : ∀ e ∈ d.sortedItems, p (f e) = decide (e.1 = k)) :
    (d.sortedItems.map f).reverse.find? p = (d.get? k).map fun a => f (k, a) := by
  cases hget : d.get? k with
  | none =>
    refine List.find?_eq_none.mpr fun c hc hpc => ?_
    obtain ⟨e, he, rfl⟩ := List.mem_map.mp (List.mem_reverse.mp hc)
    have hkey : e.1 = k := of_decide_eq_true ((hp e he).symm.trans hpc)
    have hsome := mem_sortedItems.mp he
    rw [hkey, hget] at hsome
    cases hsome
  | some a =>
    have hmem : (k, a) ∈ d.sortedItems := mem_sortedItems.mpr hget
    have hfound : ((d.sortedItems.map f).reverse.find? p).isSome := by
      refine List.find?_isSome.mpr ⟨f (k, a), List.mem_reverse.mpr (List.mem_map_of_mem hmem), ?_⟩
      rw [hp _ hmem]
      exact decide_eq_true rfl
    obtain ⟨c, hc⟩ := Option.isSome_iff_exists.mp hfound
    obtain ⟨e, he, rfl⟩ := List.mem_map.mp (List.mem_reverse.mp (List.mem_of_find?_eq_some hc))
    have hpc := List.find?_some hc
    rw [hp e he] at hpc
    have hkey : e.1 = k := of_decide_eq_true hpc
    have hsome := mem_sortedItems.mp he
    rw [hkey, hget] at hsome
    rw [hc, Option.map_some, Option.some.inj hsome, ← hkey]

/-- The keys of `dict(entries)` are those of the entries. -/
theorem mem_ofList {entries : List (κ × α)} {k : κ} :
    k ∈ ofList entries ↔ k ∈ entries.map Prod.fst := by
  have h : ∀ (es : List (κ × α)) (d : PyDict κ α),
      k ∈ es.foldl (fun d e => d.set e.1 e.2) d ↔ k ∈ d ∨ k ∈ es.map Prod.fst := by
    intro es
    induction es with
    | nil => simp
    | cons e es ih =>
      intro d
      rw [List.foldl_cons, ih, mem_set, List.map_cons, List.mem_cons]
      tauto
  rw [ofList, h]
  simp [mem_iff]

theorem setDefault_of_mem {d : PyDict κ α} {k : κ} (a : α) (h : k ∈ d) : d.setDefault k a = d :=
  if_pos h

/-- Setting a key to the value it has changes nothing. -/
theorem set_get?_self {d : PyDict κ α} {k : κ} {a : α} (h : d.get? k = some a) :
    d.set k a = d := by
  obtain ⟨items, nodup⟩ := d
  apply ext
  induction items with
  | nil => cases h
  | cons e es ih =>
    by_cases he : e.1 = k
    · have ha : e.2 = a := by simpa [get?, lookup, he] using h
      simp [set, overwrite, ← he, ← ha]
    · have h' : lookup k es = some a := by simpa [get?, lookup, he] using h
      simpa [set, overwrite, he] using ih (List.nodup_cons.mp nodup).2 h'

/-- A dictionary is its keys in order with what each of them has. -/
theorem eq_of_keys_of_get? {d e : PyDict κ α} (hkeys : d.keys = e.keys)
    (h : ∀ k ∈ d, d.get? k = e.get? k) : d = e := by
  have hget : ∀ (c : PyDict κ α), c.items = c.keys.filterMap fun k => (c.get? k).map fun a => (k, a) := by
    intro c
    rw [keys, List.filterMap_map]
    symm
    calc c.items.filterMap _ = c.items.filterMap some :=
          List.filterMap_congr fun e he => by simp [get?_of_mem_items (d := c) (k := e.1) (a := e.2) he]
      _ = c.items := List.filterMap_some
  apply ext
  rw [hget d, hget e, ← hkeys]
  exact List.filterMap_congr fun k hk => by rw [h k hk]

theorem keys_modify (d : PyDict κ α) (k : κ) (f : α → α) : (d.modify k f).keys = d.keys :=
  keys_mapValues _ d

/-- Two changes of a value are the same where they make the same of it. -/
theorem modify_eq_modify_iff {d : PyDict κ α} {k : κ} {f g : α → α} :
    d.modify k f = d.modify k g ↔ ∀ a, d.get? k = some a → f a = g a := by
  constructor
  · intro h a ha
    have hget := congrArg (fun e => e.get? k) h
    simpa only [get?_modify, if_true, ha, Option.map_some, Option.some.injEq] using hget
  · intro h
    refine eq_of_keys_of_get? ((keys_modify d k f).trans (keys_modify d k g).symm) fun k' _ => ?_
    rw [get?_modify, get?_modify]
    refine if_congr Iff.rfl ?_ rfl
    exact Option.map_congr fun a ha => h a ha

theorem modify_eq_self_iff {d : PyDict κ α} {k : κ} {f : α → α} :
    d.modify k f = d ↔ ∀ a, d.get? k = some a → f a = a := by
  have hid : d.modify k id = d := by
    refine eq_of_keys_of_get? (keys_modify d k id) fun k' _ => ?_
    rw [get?_modify]
    split_ifs with hk
    · rw [hk, Option.map_id, id]
    · rfl
  nth_rewrite 2 [← hid]
  exact modify_eq_modify_iff

/-- Setting a key that is there changes its value. -/
theorem set_eq_modify {d : PyDict κ α} {k : κ} {a : α} (h : k ∈ d) :
    d.set k a = d.modify k fun _ => a := by
  refine eq_of_keys_of_get? ((keys_set_of_mem a h).trans (keys_modify d k _).symm) fun k' _ => ?_
  obtain ⟨b, hb⟩ := mem_iff.mp h
  rw [get?_set, get?_modify, hb]
  rfl

theorem modify_of_not_mem {d : PyDict κ α} {k : κ} (f : α → α) (h : k ∉ d) : d.modify k f = d :=
  modify_eq_self_iff.mpr fun _ ha => absurd (mem_iff.mpr ⟨_, ha⟩) h

/-! ## Building a dictionary from entries -/

/-- Setting a new key appends its item. -/
theorem items_set_of_not_mem {d : PyDict κ α} {k : κ} (a : α) (h : k ∉ d) :
    (d.set k a).items = d.items ++ [(k, a)] := by
  have hover : ∀ es : List (κ × α), k ∉ es.map Prod.fst → overwrite k a es = es ++ [(k, a)] := by
    intro es
    induction es with
    | nil => intro _; rfl
    | cons e es ih =>
      intro hes
      rw [List.map_cons, List.mem_cons, not_or] at hes
      rw [overwrite, if_neg (fun he => hes.1 he.symm), ih hes.2, List.cons_append]
  exact hover d.items h

/-- Entries with distinct keys become the items as they are. -/
theorem items_ofList {entries : List (κ × α)} (h : (entries.map Prod.fst).Nodup) :
    (ofList entries).items = entries := by
  have hfold : ∀ (es : List (κ × α)) (d : PyDict κ α), (es.map Prod.fst).Nodup →
      (∀ e ∈ es, e.1 ∉ d) →
        (es.foldl (fun d e => d.set e.1 e.2) d).items = d.items ++ es := by
    intro es
    induction es with
    | nil =>
      intro d _ _
      rw [List.append_nil]
      rfl
    | cons e es ih =>
      intro d hnodup hnew
      rw [List.map_cons, List.nodup_cons] at hnodup
      rw [List.foldl_cons, ih _ hnodup.2, items_set_of_not_mem e.2 (hnew e List.mem_cons_self),
        List.append_assoc, List.singleton_append]
      intro e' he'
      rw [mem_set, not_or]
      refine ⟨?_, hnew e' (List.mem_cons_of_mem _ he')⟩
      intro heq
      exact hnodup.1 (heq ▸ List.mem_map_of_mem he')
  exact hfold entries ∅ h fun _ _ => List.not_mem_nil

theorem keys_set (d : PyDict κ α) (k : κ) (a : α) :
    (d.set k a).keys = if k ∈ d then d.keys else d.keys ++ [k] := by
  by_cases hk : k ∈ d
  · rw [keys_set_of_mem a hk, if_pos hk]
  · rw [if_neg hk, keys, items_set_of_not_mem a hk, List.map_append]
    rfl

theorem set_set (d : PyDict κ α) (k : κ) (a b : α) : (d.set k a).set k b = d.set k b := by
  refine eq_of_keys_of_get? ?_ fun k' _ => ?_
  · rw [keys_set_of_mem _ (mem_set.mpr (.inl rfl)), keys_set, keys_set]
  · rw [get?_set, get?_set, get?_set]
    split_ifs <;> rfl

/-- Seen as a function, a dictionary is updated at one key. -/
theorem map_get?_set (d : PyDict κ α) (k : κ) (a : α) (f : α → β) :
    (fun u => ((d.set k a).get? u).map f) = Function.update (fun u => (d.get? u).map f) k (some (f a)) := by
  funext u
  rw [get?_set]
  by_cases hu : u = k
  · subst hu
    rw [if_pos rfl, Function.update_self]
    rfl
  · rw [if_neg hu, Function.update_of_ne hu]

theorem map_get?_pop (d : PyDict κ α) (k : κ) (f : α → β) :
    (fun u => ((d.pop k).get? u).map f) = Function.update (fun u => (d.get? u).map f) k none := by
  funext u
  rw [get?_pop]
  by_cases hu : u = k
  · subst hu
    rw [if_pos rfl, Function.update_self]
    rfl
  · rw [if_neg hu, Function.update_of_ne hu]

/-- The entry made of a key, among those made of a list of keys. -/
theorem find?_filterMap_get? {γ : Type*} (key : γ → κ) (f : κ → α → γ) (hkey : ∀ k a, key (f k a) = k)
    (d : PyDict κ α) (l : List κ) (k : κ) :
    (l.filterMap fun u => (d.get? u).map (f u)).find? (fun c => key c = k) =
      if k ∈ l then (d.get? k).map (f k) else none := by
  induction l with
  | nil => rfl
  | cons u l ih =>
    rw [List.filterMap_cons]
    cases hu : d.get? u with
    | none =>
      rw [Option.map_none, ih]
      by_cases hk : k = u
      · rw [hk, hu, Option.map_none]
        split_ifs <;> rfl
      · simp only [List.mem_cons, hk, false_or]
    | some a =>
      rw [Option.map_some, List.find?_cons]
      by_cases hk : k = u
      · subst hk
        rw [if_pos List.mem_cons_self, hu]
        simp [hkey]
      · have hne : decide (key (f u a) = k) = false := decide_eq_false fun h => hk ((hkey u a ▸ h).symm)
        simp only [hne, ih, List.mem_cons, hk, false_or]

theorem mem_of_mem_ofList {entries : List (κ × α)} {e : κ × α} (h : e ∈ (ofList entries).items) :
    e ∈ entries := by
  have hfold : ∀ (es : List (κ × α)) (d : PyDict κ α),
      e ∈ (es.foldl (fun d e => d.set e.1 e.2) d).items → e ∈ d.items ∨ e ∈ es := by
    intro es
    induction es with
    | nil => exact fun _ h => .inl h
    | cons x es ih =>
      intro d h
      rcases ih (d.set x.1 x.2) h with h | h
      · have hget : (d.set x.1 x.2).get? e.1 = some e.2 := mem_items_iff.mp h
        rw [get?_set] at hget
        split_ifs at hget with hkey
        · refine .inr (List.mem_cons.mpr (.inl ?_))
          exact Prod.ext hkey (Option.some.inj hget).symm
        · exact .inl (mem_items_iff.mpr hget)
      · exact .inr (List.mem_cons_of_mem _ h)
  exact (hfold entries ∅ h).resolve_left List.not_mem_nil

/-- The items under some of the keys are those of the entries under these keys. -/
theorem filter_items_ofList (p : κ → Bool) (entries : List (κ × α)) :
    (ofList entries).items.filter (fun e => p e.1) =
      (ofList (entries.filter fun e => p e.1)).items := by
  have hover : ∀ (k : κ) (a : α) (es : List (κ × α)),
      (overwrite k a es).filter (fun e => p e.1) =
        if p k then overwrite k a (es.filter fun e => p e.1) else es.filter fun e => p e.1 := by
    intro k a es
    induction es with
    | nil => cases hp : p k <;> simp [overwrite, hp]
    | cons e es ih =>
      by_cases he : e.1 = k
      · cases hp : p k <;> simp [overwrite, he, hp]
      · cases hp : p k <;> cases hpe : p e.1 <;> simp [overwrite, he, hp, hpe, ih]
  have hfold : ∀ (es : List (κ × α)) (d d' : PyDict κ α),
      d.items.filter (fun e => p e.1) = d'.items →
        (es.foldl (fun d e => d.set e.1 e.2) d).items.filter (fun e => p e.1) =
          ((es.filter fun e => p e.1).foldl (fun d e => d.set e.1 e.2) d').items := by
    intro es
    induction es with
    | nil => exact fun _ _ h => h
    | cons e es ih =>
      intro d d' h
      have hset := hover e.1 e.2 d.items
      rw [h] at hset
      cases hp : p e.1 with
      | true =>
        rw [hp, if_pos rfl] at hset
        rw [List.filter_cons_of_pos (by simpa using hp)]
        exact ih (d.set e.1 e.2) (d'.set e.1 e.2) hset
      | false =>
        rw [hp, if_neg Bool.false_ne_true, ← h] at hset
        rw [List.filter_cons_of_neg (by simp [hp])]
        exact ih (d.set e.1 e.2) d' (hset.trans h)
  exact hfold entries ∅ ∅ rfl

/-- `{k: f(k, a) for k, a in d.items()}`, leaving out the items `f` has no value for. -/
def filterMap (f : κ → α → Option β) (d : PyDict κ α) : PyDict κ β where
  items := d.items.filterMap fun e => (f e.1 e.2).map (e.1, ·)
  nodup := by
    refine d.nodup.sublist ?_
    induction d.items with
    | nil => exact List.Sublist.refl _
    | cons e es ih =>
      rw [List.filterMap_cons]
      cases f e.1 e.2 with
      | none => exact ih.cons _
      | some b => exact ih.cons_cons _

theorem get?_filterMap (f : κ → α → Option β) (d : PyDict κ α) (k : κ) :
    (d.filterMap f).get? k = (d.get? k).bind (f k) := by
  cases h : (d.get? k).bind (f k) with
  | some b =>
    obtain ⟨a, ha, hb⟩ := Option.bind_eq_some_iff.mp h
    apply get?_of_mem_items
    exact List.mem_filterMap.mpr ⟨(k, a), mem_items_of_get? ha, by rw [hb]; rfl⟩
  | none =>
    by_contra hne
    obtain ⟨b, hb⟩ := Option.ne_none_iff_exists'.mp hne
    obtain ⟨e, he, heq⟩ := List.mem_filterMap.mp (mem_items_of_get? hb)
    obtain ⟨b', hb', hpair⟩ := Option.map_eq_some_iff.mp heq
    cases hpair
    rw [get?_of_mem_items he, Option.bind_some, hb'] at h
    cases h

theorem mem_of_mem_filterMap {f : κ → α → Option β} {d : PyDict κ α} {k : κ}
    (h : k ∈ d.filterMap f) : k ∈ d := by
  obtain ⟨b, hb⟩ := mem_iff.mp h
  rw [get?_filterMap] at hb
  obtain ⟨a, ha, _⟩ := Option.bind_eq_some_iff.mp hb
  exact mem_iff.mpr ⟨a, ha⟩

/-- The sorted entries, their values changed one by one, make a dictionary of the same keys. -/
theorem get?_ofList_sortedItems [LinearOrder κ] (d : PyDict κ α) (f : α → β) (k : κ) :
    (ofList (d.sortedItems.map fun e => (e.1, f e.2))).get? k = (d.get? k).map f := by
  have hnodup : ((d.sortedItems.map fun e => (e.1, f e.2)).map Prod.fst).Nodup := by
    rw [List.map_map]
    show (d.sortedItems.map Prod.fst).Nodup
    rw [keys_sortedItems]
    exact PySet.nodup_sorted _
  refine Option.ext fun b => ?_
  rw [← mem_items_iff, items_ofList hnodup, List.mem_map, Option.map_eq_some_iff]
  constructor
  · rintro ⟨⟨k', a⟩, he, heq⟩
    cases heq
    exact ⟨a, mem_sortedItems.mp he, rfl⟩
  · rintro ⟨a, ha, rfl⟩
    exact ⟨(k, a), mem_sortedItems.mpr ha, rfl⟩

/-- `{k: f(k) for k in keys}`. -/
theorem get?_ofList_map {keys : List κ} (hkeys : keys.Nodup) (f : κ → α) (k : κ) :
    (ofList (keys.map fun k => (k, f k))).get? k = if k ∈ keys then some (f k) else none := by
  have hfst : (keys.map fun k => (k, f k)).map Prod.fst = keys := by simp [Function.comp_def]
  split_ifs with hk
  · apply get?_of_mem_items
    rw [items_ofList (by rwa [hfst])]
    exact List.mem_map_of_mem hk
  · rw [← not_mem_iff, mem_ofList, hfst]
    exact hk

end PyDict
