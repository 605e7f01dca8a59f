import NetgearSwitch.Lib.PyDict
import Mathlib.Data.List.Induction

/-!
# Loops that apply one element after another and stop at a refusal

A loop over a list checks each element and either applies it or stops with an answer; what it has
applied by then stays applied.  Where the checks depend on a part of the state only, the elements
that are applied are known without running the loop.

The second half is about what a list of writes leaves at one place: the last of them, where they
are assignments.
-/

namespace RunUntil

variable {σ τ α ρ : Type*}

/-! ## §1 The loop -/

/-- The state the loop leaves, and the answer it stopped with. -/
def run (check : σ → α → Option ρ) (effect : σ → α → σ) : List α → σ → σ × Option ρ
  | [], s => (s, none)
  | a :: as, s =>
    match check s a with
    | some r => (s, some r)
    | none => run check effect as (effect s a)

/-- The elements in front of the one the loop stops at. -/
def applied (check : τ → α → Option ρ) (next : τ → α → τ) : List α → τ → List α
  | [], _ => []
  | a :: as, t => if (check t a).isSome then [] else a :: applied check next as (next t a)

/-- The answer the loop stops with. -/
def refusal (check : τ → α → Option ρ) (next : τ → α → τ) : List α → τ → Option ρ
  | [], _ => none
  | a :: as, t => (check t a).or (refusal check next as (next t a))

/-- The loop goes on with a second list where it does not stop in the first. -/
theorem run_append (check : σ → α → Option ρ) (effect : σ → α → σ) (as bs : List α) (s : σ) :
    run check effect (as ++ bs) s =
      if (run check effect as s).2.isSome then run check effect as s
      else run check effect bs (run check effect as s).1 := by
  induction as generalizing s with
  | nil => rfl
  | cons a as ih =>
    rw [List.cons_append, run, run]
    cases check s a with
    | some r => rfl
    | none => exact ih (effect s a)

/-- **The loop in closed form**: the applied elements in turn, and the refusal, both from the part
of the state that the checks look at. -/
theorem run_eq {check : σ → α → Option ρ} {effect : σ → α → σ} {checkPart : τ → α → Option ρ}
    {next : τ → α → τ} (part : σ → τ) (hcheck : ∀ s a, check s a = checkPart (part s) a)
    (hnext : ∀ s a, check s a = none → part (effect s a) = next (part s) a) (as : List α) (s : σ) :
    run check effect as s = ((applied checkPart next as (part s)).foldl effect s,
      refusal checkPart next as (part s)) := by
  induction as generalizing s with
  | nil => rfl
  | cons a as ih =>
    rw [run, applied, refusal, ← hcheck]
    cases h : check s a with
    | some r => rfl
    | none =>
      dsimp only
      rw [ih (effect s a), hnext s a h]
      rfl

/-- Checks that do not look at the state at all. -/
theorem run_of_const (check : α → Option ρ) (effect : σ → α → σ) (as : List α) (s : σ) :
    run (fun _ => check) effect as s =
      ((applied (fun _ : Unit => check) (fun u _ => u) as ()).foldl effect s,
        refusal (fun _ : Unit => check) (fun u _ => u) as ()) := by
  have hnext : ∀ (s : σ) (a : α), check a = none → () = () := fun _ _ _ => rfl
  exact @run_eq σ Unit α ρ _ effect (fun _ => check) (fun u _ => u) (fun _ => ())
    (fun _ _ => rfl) hnext as s

/-- The loop stops with an answer of a check. -/
theorem exists_check_of_run {check : σ → α → Option ρ} {effect : σ → α → σ} {as : List α} {s : σ}
    {r : ρ} (h : (run check effect as s).2 = some r) : ∃ s', ∃ a ∈ as, check s' a = some r := by
  induction as generalizing s with
  | nil => cases h
  | cons a as ih =>
    rw [run] at h
    cases hcheck : check s a with
    | some r' =>
      rw [hcheck] at h
      cases h
      exact ⟨s, a, List.mem_cons_self, hcheck⟩
    | none =>
      rw [hcheck] at h
      obtain ⟨s', b, hb, hr⟩ := ih h
      exact ⟨s', b, List.mem_cons_of_mem a hb, hr⟩

/-! ## §2 Writes in turn -/

/-- What the last of the writes for `k` has. -/
def lastFor {κ β : Type*} [DecidableEq κ] (writes : List (κ × β)) (k : κ) : Option β :=
  ((writes.filter fun w => w.1 = k).getLast?).map Prod.snd

/-- Writes that overwrite each other leave what the last of them does. -/
theorem foldl_overwrite {ω β : Type*} {act : ω → β → β} (h : ∀ w v b, act w (act v b) = act w b)
    (ws : List ω) (b : β) :
    ws.foldl (fun b w => act w b) b = (ws.getLast?.map fun w => act w b).getD b := by
  induction ws using List.reverseRecOn with
  | nil => rfl
  | append_singleton ws w ih =>
    rw [List.foldl_append, ih, List.getLast?_append, List.getLast?_singleton, Option.some_or]
    cases ws.getLast? with
    | none => rfl
    | some v => exact h w v b

/-- They leave the place as it was if the last of them does. -/
theorem foldl_overwrite_eq_self_iff {ω β : Type*} {act : ω → β → β}
    (h : ∀ w v b, act w (act v b) = act w b) {ws : List ω} {b : β} :
    ws.foldl (fun b w => act w b) b = b ↔ ∀ w, ws.getLast? = some w → act w b = b := by
  rw [foldl_overwrite h]
  cases ws.getLast? with
  | none =>
    refine ⟨fun _ w hw => ?_, fun _ => rfl⟩
    cases hw
  | some v =>
    constructor
    · intro hv w hw
      rw [← Option.some.inj hw]
      exact hv
    · intro hlast
      exact hlast v rfl

section Dictionaries

variable {κ β ω : Type*} [DecidableEq κ]

/-- Changes of a dictionary in turn, each of one key, at a key. -/
theorem get?_foldl_of_local {act : PyDict κ β → κ × ω → PyDict κ β}
    {effect : ω → Option β → Option β}
    (h : ∀ d w k, (act d w).get? k = if k = w.1 then effect w.2 (d.get? k) else d.get? k)
    (writes : List (κ × ω)) (d : PyDict κ β) (k : κ) :
    (writes.foldl act d).get? k =
      (writes.filter fun w => w.1 = k).foldl (fun o w => effect w.2 o) (d.get? k) := by
  induction writes generalizing d with
  | nil => rfl
  | cons w writes ih =>
    rw [List.foldl_cons, ih, h]
    by_cases hw : k = w.1
    · have hfirst : decide (w.1 = k) = true := decide_eq_true hw.symm
      rw [if_pos hw, List.filter_cons, if_pos hfirst]
      rfl
    · have hother : ¬ decide (w.1 = k) = true := fun h => hw (of_decide_eq_true h).symm
      rw [if_neg hw, List.filter_cons, if_neg hother]

/-- Changes of a dictionary in turn, at one key. -/
theorem get?_foldl_modify (act : ω → β → β) (writes : List (κ × ω)) (d : PyDict κ β) (k : κ) :
    (writes.foldl (fun d w => d.modify w.1 (act w.2)) d).get? k =
      (d.get? k).map fun b => (writes.filter fun w => w.1 = k).foldl (fun b w => act w.2 b) b := by
  have hlocal : ∀ (d : PyDict κ β) (w : κ × ω) (k : κ), (d.modify w.1 (act w.2)).get? k =
      if k = w.1 then (d.get? k).map (act w.2) else d.get? k := by
    intro d w k
    rw [PyDict.get?_modify]
    split_ifs with hk
    · rw [hk]
    · rfl
  have hmap : ∀ (ws : List (κ × ω)) (o : Option β), ws.foldl (fun o w => o.map (act w.2)) o =
      o.map fun b => ws.foldl (fun b w => act w.2 b) b := by
    intro ws
    induction ws with
    | nil => exact fun o => (congrFun Option.map_id o).symm
    | cons w ws ih =>
      intro o
      rw [List.foldl_cons, ih, Option.map_map]
      rfl
  rw [@get?_foldl_of_local κ β ω _ _ (fun w o => o.map (act w)) hlocal, hmap]

theorem keys_foldl_modify (act : ω → β → β) (writes : List (κ × ω)) (d : PyDict κ β) :
    (writes.foldl (fun d w => d.modify w.1 (act w.2)) d).keys = d.keys := by
  induction writes generalizing d with
  | nil => rfl
  | cons w writes ih => rw [List.foldl_cons, ih, PyDict.keys_modify]

/-- Changes in turn leave the dictionary if those of each key leave its value. -/
theorem foldl_modify_eq_self_iff {act : ω → β → β} {writes : List (κ × ω)} {d : PyDict κ β} :
    writes.foldl (fun d w => d.modify w.1 (act w.2)) d = d ↔
      ∀ k b, d.get? k = some b →
        (writes.filter fun w => w.1 = k).foldl (fun b w => act w.2 b) b = b := by
  constructor
  · intro h k b hb
    have hget := get?_foldl_modify act writes d k
    rw [h, hb] at hget
    exact (Option.some.inj hget).symm
  · intro h
    refine PyDict.eq_of_keys_of_get? (keys_foldl_modify act writes d) fun k _ => ?_
    rw [get?_foldl_modify]
    cases hb : d.get? k with
    | none => rfl
    | some b => rw [Option.map_some, h k b hb]

/-- Changes that overwrite each other leave the dictionary if the last of each key does. -/
theorem foldl_modify_overwrite_eq_self_iff {act : ω → β → β}
    (h : ∀ w v b, act w (act v b) = act w b) {writes : List (κ × ω)} {d : PyDict κ β} :
    writes.foldl (fun d w => d.modify w.1 (act w.2)) d = d ↔
      ∀ k b w, d.get? k = some b → lastFor writes k = some w → act w b = b := by
  have hover : ∀ (w v : κ × ω) (b : β), act w.2 (act v.2 b) = act w.2 b :=
    fun w v b => h w.2 v.2 b
  rw [foldl_modify_eq_self_iff]
  refine forall_congr' fun k => forall_congr' fun b => ?_
  constructor
  · intro hfold w hb hlast
    obtain ⟨v, hv, rfl⟩ := Option.map_eq_some_iff.mp hlast
    exact (foldl_overwrite_eq_self_iff hover).mp (hfold hb) v hv
  · intro hlast hb
    refine (foldl_overwrite_eq_self_iff hover).mpr fun w hw => ?_
    exact hlast w.2 hb (Option.map_eq_some_iff.mpr ⟨w, hw, rfl⟩)

/-- Keys set in turn keep what they have if the last value of each is that. -/
theorem get?_foldl_set_eq_self_iff {writes : List (κ × β)} {d : PyDict κ β} {k : κ} :
    (writes.foldl (fun d w => d.set w.1 w.2) d).get? k = d.get? k ↔
      ∀ b, lastFor writes k = some b → d.get? k = some b := by
  have hlocal : ∀ (d : PyDict κ β) (w : κ × β) (k : κ), (d.set w.1 w.2).get? k =
      if k = w.1 then some w.2 else d.get? k := fun d w k => PyDict.get?_set d w.1 k w.2
  have hover : ∀ (w v : κ × β) (o : Option β), some w.2 = some w.2 := fun _ _ _ => rfl
  rw [@get?_foldl_of_local κ β β _ _ (fun b _ => some b) hlocal]
  refine (@foldl_overwrite_eq_self_iff (κ × β) (Option β) (fun w _ => some w.2) hover _ _).trans ?_
  constructor
  · intro h b hb
    obtain ⟨w, hw, rfl⟩ := Option.map_eq_some_iff.mp hb
    exact (h w hw).symm
  · intro h w hw
    exact (h w.2 (Option.map_eq_some_iff.mpr ⟨w, hw, rfl⟩)).symm

end Dictionaries

end RunUntil
