import Mathlib.Data.List.Sort
import Mathlib.Order.Basic

/-!
# Walking a sorted table

A table whose rows stand in the strict order of their keys is read from a key on: `next` is the
first row above the key, `lookup` the row that has it.  Feeding the key of every answer back in
visits the rows above the first key one by one and then comes to an end.
-/

namespace SortedWalk

variable {α κ : Type}

/-! ## §1 Walks -/

/-- Asked from the key `k` on, and from the key of each answer again, `next` gives these rows one
after the other and then none. -/
inductive Walks (next : κ → Option α) (key : α → κ) : κ → List α → Prop
  | stop {k : κ} (h : next k = none) : Walks next key k []
  | step {k : κ} {a : α} {as : List α} (h : next k = some a) (rest : Walks next key (key a) as) :
    Walks next key k (a :: as)

/-- A walk goes one way only. -/
theorem Walks.unique {next : κ → Option α} {key : α → κ} {k : κ} {as bs : List α}
    (ha : Walks next key k as) (hb : Walks next key k bs) : as = bs := by
  induction ha generalizing bs with
  | stop h =>
    cases hb with
    | stop _ => rfl
    | step h' _ => cases h.symm.trans h'
  | step h rest ih =>
    cases hb with
    | stop h' => cases h.symm.trans h'
    | step h' rest' =>
      cases h.symm.trans h'
      rw [ih rest']

/-! ## §2 Sorted tables -/

variable [LinearOrder κ] (key : α → κ) (l : List α)

/-- The first row above a key. -/
def next (k : κ) : Option α := l.find? fun a => k < key a

/-- The first row not below a key, where it has the key. -/
def lookup (k : κ) : Option α := (l.find? fun a => k ≤ key a).filter fun a => key a = k

/-- The rows stand in the strict order of their keys. -/
def Sorted : Prop := l.Pairwise fun a b => key a < key b

variable {key l}

/-- From a key between the front of the table and the rest on, the walk visits the rest. -/
private theorem walks_append {pre suf : List α} {k : κ} (hpre : ∀ a ∈ pre, key a ≤ k)
    (hsuf : ∀ a ∈ suf, k < key a) (h : Sorted key suf) :
    Walks (next key (pre ++ suf)) key k suf := by
  induction suf generalizing pre k with
  | nil =>
    refine .stop (List.find?_eq_none.mpr fun a ha => ?_)
    rw [List.append_nil] at ha
    simpa using hpre a ha
  | cons b suf ih =>
    have hnext : next key (pre ++ b :: suf) k = some b := by
      have hnone : pre.find? (fun a => decide (k < key a)) = none :=
        List.find?_eq_none.mpr fun a ha => by simpa using hpre a ha
      rw [next, List.find?_append, hnone, Option.none_or,
        List.find?_cons_of_pos (by simpa using hsuf b List.mem_cons_self)]
    obtain ⟨hb, hrest⟩ := List.pairwise_cons.mp h
    refine .step hnext ?_
    rw [List.append_cons]
    apply ih _ hb hrest
    intro a ha
    rcases List.mem_append.mp ha with ha | ha
    · exact (hpre a ha).trans (hsuf b List.mem_cons_self).le
    · exact (congrArg key (List.mem_singleton.mp ha)).le

/-- **A walk is complete.**  From any key on it visits the rows above the key, in their order. -/
theorem walks_next (h : Sorted key l) (k : κ) :
    Walks (next key l) key k (l.filter fun a => k < key a) := by
  -- the rows above the key are the end of the table
  have hsplit : l = (l.filter fun a => key a ≤ k) ++ l.filter fun a => k < key a := by
    induction l with
    | nil => rfl
    | cons a l ih =>
      obtain ⟨ha, hl⟩ := List.pairwise_cons.mp h
      rcases le_or_gt (key a) k with hle | hlt
      · rw [List.filter_cons_of_pos (by simpa using hle),
          List.filter_cons_of_neg (by simpa using hle), List.cons_append, ← ih hl]
      · have hlow : l.filter (fun b => decide (key b ≤ k)) = [] :=
          List.filter_eq_nil_iff.mpr fun b hb => by simpa using hlt.trans (ha b hb)
        have hhigh : l.filter (fun b => decide (k < key b)) = l :=
          List.filter_eq_self.mpr fun b hb => by simpa using hlt.trans (ha b hb)
        rw [List.filter_cons_of_neg (by simpa using hlt), hlow,
          List.filter_cons_of_pos (by simpa using hlt), hhigh, List.nil_append]
  have hwalk := @walks_append α κ _ key (l.filter fun a => key a ≤ k)
    (l.filter fun a => k < key a) k (fun a ha => by simpa using (List.mem_filter.mp ha).2)
    (fun a ha => by simpa using (List.mem_filter.mp ha).2) (List.Pairwise.filter _ h)
  rwa [← hsplit] at hwalk

theorem walks_next_iff (h : Sorted key l) {k : κ} {as : List α} :
    Walks (next key l) key k as ↔ as = l.filter fun a => k < key a := by
  constructor
  · intro hwalk
    exact hwalk.unique (walks_next h k)
  · rintro rfl
    exact walks_next h k

/-- The row of a key is found where there is one. -/
theorem lookup_eq_some (h : Sorted key l) {k : κ} {a : α} :
    lookup key l k = some a ↔ a ∈ l ∧ key a = k := by
  rw [lookup, Option.filter_eq_some_iff, decide_eq_true_eq]
  constructor
  · rintro ⟨hfind, hk⟩
    exact ⟨List.mem_of_find?_eq_some hfind, hk⟩
  · rintro ⟨ha, rfl⟩
    refine ⟨?_, rfl⟩
    induction l with
    | nil => cases ha
    | cons b l ih =>
      obtain ⟨hb, hl⟩ := List.pairwise_cons.mp h
      rcases List.mem_cons.mp ha with rfl | ha
      · exact List.find?_cons_of_pos (by simp)
      · rw [List.find?_cons_of_neg (by simpa using hb a ha)]
        exact ih hl ha

/-! ## §3 Sorting by distinct keys -/

/-- A table sorted by its keys, where no two rows have the same one. -/
theorem sorted_insertionSort {le : α → α → Bool} (hle : ∀ a b, le a b = true ↔ key a ≤ key b)
    (hnodup : (l.map key).Nodup) : Sorted key (l.insertionSort fun a b => le a b) := by
  have htotal : Std.Total fun a b => le a b = true :=
    ⟨fun a b => by simpa only [hle] using le_total (key a) (key b)⟩
  have htrans : IsTrans α fun a b => le a b = true :=
    ⟨fun a b c hab hbc => (hle a c).mpr (((hle a b).mp hab).trans ((hle b c).mp hbc))⟩
  have hsorted := List.pairwise_insertionSort (fun a b => le a b = true) l
  have hperm := List.perm_insertionSort (fun a b => le a b = true) l
  have hdistinct : (l.insertionSort fun a b => le a b = true).Pairwise
      fun a b => key a ≠ key b :=
    List.pairwise_map.mp ((hperm.map key).nodup_iff.mpr hnodup)
  refine (hsorted.and hdistinct).imp ?_
  rintro a b ⟨hab, hne⟩
  exact lt_of_le_of_ne ((hle a b).mp hab) hne

end SortedWalk
