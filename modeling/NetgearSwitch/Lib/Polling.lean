import NetgearSwitch.Lib.Script

/-!
# Polling

A loop that looks at a device until it likes what it sees, or until its time is up.  The clock's
part in such a loop is the number of rounds it grants before it reads past the deadline; whatever
holds for every number of rounds holds for every clock.

§1 the loop · §2 looking again and again · §3 how the loop ends · §4 what it asks for
-/

namespace Script

variable {δ Q A ε α β : Type}

/-! ## §1 The loop -/

/-- Look until `ok`; `tries` more times before the deadline, then `late`. -/
def pollUntil (look : Script Q A ε α) (ok : α → Bool) (late : Script Q A ε Unit) :
    ℕ → Script Q A ε Unit
  | 0 => do
    let a ← look
    if ok a then pure () else late
  | tries + 1 => do
    let a ← look
    if ok a then pure () else pollUntil look ok late tries

/-! ## §2 Looking again and again -/

section Looks

variable (m : Machine δ Q A) (look : Script Q A ε α)

/-- The device after `n` looks. -/
def afterLooks : ℕ → δ → δ
  | 0, d => d
  | n + 1, d => afterLooks n (look.run m d).device

/-- What the look after `n` others comes to. -/
def lookAt (n : ℕ) (d : δ) : Except ε α := (look.run m (afterLooks m look n d)).result

/-- What the first `n` looks asked for. -/
def looksSent : ℕ → δ → List (Q × A)
  | 0, _ => []
  | n + 1, d => (look.run m d).sent ++ looksSent n (look.run m d).device

theorem lookAt_succ (n : ℕ) (d : δ) : lookAt m look (n + 1) d = lookAt m look n (look.run m d).device :=
  rfl

/-- A look that asks for something tells the numbers of looks apart. -/
theorem looksSent_inj (hlook : ∀ d, (look.run m d).sent ≠ []) {n k : ℕ} {d : δ}
    (h : looksSent m look n d = looksSent m look k d) : n = k := by
  have hlong : ∀ (n : ℕ) (d : δ), looksSent m look (n + 1) d ≠ [] := fun n d h =>
    hlook d (List.append_eq_nil_iff.mp h).1
  induction n generalizing k d with
  | zero =>
    cases k with
    | zero => rfl
    | succ k => exact absurd h.symm (hlong k d)
  | succ n ih =>
    cases k with
    | zero => exact absurd h (hlong n d)
    | succ k => rw [ih (List.append_cancel_left h)]

end Looks

/-- The first round of the loop that likes what it sees. -/
def firstGood (ok : α → Bool) (seen : ℕ → α) : ℕ → Option ℕ
  | 0 => if ok (seen 0) then some 0 else none
  | tries + 1 =>
    if ok (seen 0) then some 0 else (firstGood ok (fun i => seen (i + 1)) tries).map (· + 1)

theorem firstGood_eq_some {ok : α → Bool} {seen : ℕ → α} {tries i : ℕ} :
    firstGood ok seen tries = some i ↔ i ≤ tries ∧ ok (seen i) ∧ ∀ j < i, ¬ok (seen j) := by
  induction tries generalizing seen i with
  | zero =>
    rw [firstGood]
    split_ifs with h
    · constructor
      · rintro ⟨⟩
        exact ⟨Nat.le_refl _, h, fun j hj => absurd hj (Nat.not_lt_zero j)⟩
      · rintro ⟨hi, -, -⟩
        rw [Nat.le_zero.mp hi]
    · constructor
      · rintro ⟨⟩
      · rintro ⟨hi, hgood, -⟩
        rw [Nat.le_zero.mp hi] at hgood
        exact absurd hgood h
  | succ tries ih =>
    rw [firstGood]
    split_ifs with h
    · constructor
      · rintro ⟨⟩
        exact ⟨Nat.zero_le _, h, fun j hj => absurd hj (Nat.not_lt_zero j)⟩
      · rintro ⟨-, -, hfirst⟩
        cases i with
        | zero => rfl
        | succ i => exact absurd h (hfirst 0 (Nat.succ_pos i))
    · rw [Option.map_eq_some_iff]
      constructor
      · rintro ⟨k, hk, rfl⟩
        obtain ⟨hle, hgood, hfirst⟩ := ih.mp hk
        refine ⟨Nat.succ_le_succ hle, hgood, fun j hj => ?_⟩
        cases j with
        | zero => exact h
        | succ j => exact hfirst j (Nat.lt_of_succ_lt_succ hj)
      · rintro ⟨hle, hgood, hfirst⟩
        cases i with
        | zero => exact absurd hgood h
        | succ i =>
          exact ⟨i, ih.mpr ⟨Nat.le_of_succ_le_succ hle, hgood,
            fun j hj => hfirst (j + 1) (Nat.succ_lt_succ hj)⟩, rfl⟩

theorem firstGood_eq_none {ok : α → Bool} {seen : ℕ → α} {tries : ℕ} :
    firstGood ok seen tries = none ↔ ∀ i ≤ tries, ¬ok (seen i) := by
  induction tries generalizing seen with
  | zero =>
    rw [firstGood]
    split_ifs with h
    · constructor
      · rintro ⟨⟩
      · intro hall
        exact absurd h (hall 0 (Nat.le_refl _))
    · refine ⟨fun _ i hi => ?_, fun _ => rfl⟩
      rw [Nat.le_zero.mp hi]
      exact h
  | succ tries ih =>
    rw [firstGood]
    split_ifs with h
    · constructor
      · rintro ⟨⟩
      · intro hall
        exact absurd h (hall 0 (Nat.zero_le _))
    · rw [Option.map_eq_none_iff, ih]
      constructor
      · intro hall i hi
        cases i with
        | zero => exact h
        | succ i => exact hall i (Nat.le_of_succ_le_succ hi)
      · intro hall i hi
        exact hall (i + 1) (Nat.succ_le_succ hi)

/-- A stricter loop ends in the same round where that round satisfies it. -/
theorem firstGood_congr {strict ok : α → Bool} {seen : ℕ → α} {tries : ℕ}
    (himp : ∀ a, strict a → ok a) :
    firstGood strict seen tries = firstGood ok seen tries ↔
      ∀ i, firstGood ok seen tries = some i → strict (seen i) := by
  constructor
  · intro heq i hi
    rw [← heq] at hi
    exact (firstGood_eq_some.mp hi).2.1
  · intro hstrict
    cases hfirst : firstGood ok seen tries with
    | none =>
      rw [firstGood_eq_none] at hfirst ⊢
      exact fun i hi hgood => hfirst i hi (himp _ hgood)
    | some i =>
      obtain ⟨hle, -, hbefore⟩ := firstGood_eq_some.mp hfirst
      exact firstGood_eq_some.mpr ⟨hle, hstrict i hfirst, fun j hj hgood =>
        hbefore j hj (himp _ hgood)⟩

/-! ## §3 How the loop ends -/

section Run

variable {m : Machine δ Q A} {look : Script Q A ε α} {ok : α → Bool} {late : Script Q A ε Unit}

/-- Where every look ends well, the loop ends with the first good one, or late. -/
theorem run_pollUntil {seen : ℕ → α} {tries : ℕ} {d : δ}
    (hseen : ∀ i ≤ tries, lookAt m look i d = .ok (seen i)) :
    (pollUntil look ok late tries).run m d =
      match firstGood ok seen tries with
      | some i => ⟨.ok (), afterLooks m look (i + 1) d, looksSent m look (i + 1) d⟩
      | none =>
        { late.run m (afterLooks m look (tries + 1) d) with
          sent := looksSent m look (tries + 1) d ++
            (late.run m (afterLooks m look (tries + 1) d)).sent } := by
  induction tries generalizing d seen with
  | zero =>
    have hfirst : (look.run m d).result = .ok (seen 0) := hseen 0 (Nat.le_refl _)
    rw [pollUntil, run_bind_ok hfirst, firstGood]
    split_ifs
    · rfl
    · simp only [looksSent, List.append_nil]
      rfl
  | succ tries ih =>
    have hfirst : (look.run m d).result = .ok (seen 0) := hseen 0 (Nat.zero_le _)
    have hrest := @ih (fun i => seen (i + 1)) (look.run m d).device fun i hi =>
      hseen (i + 1) (Nat.succ_le_succ hi)
    rw [pollUntil, run_bind_ok hfirst, firstGood]
    split_ifs with hgood
    · rfl
    · rw [hrest]
      cases firstGood ok (fun i => seen (i + 1)) tries with
      | some i => rfl
      | none => simp only [Option.map_none, looksSent, afterLooks, List.append_assoc]

/-- The loop ends well where a look within its time is good, and no look before fails. -/
theorem pollUntil_ok_iff {tries : ℕ} {d : δ}
    (hlate : ∀ d, (late.run m d).result ≠ .ok ()) :
    ((pollUntil look ok late tries).run m d).result = .ok () ↔
      ∃ i ≤ tries, (∃ a, lookAt m look i d = .ok a ∧ ok a) ∧
        ∀ j < i, ∃ a, lookAt m look j d = .ok a := by
  induction tries generalizing d with
  | zero =>
    rw [pollUntil]
    cases hfirst : (look.run m d).result with
    | error e =>
      rw [run_bind_error hfirst]
      constructor
      · rintro ⟨⟩
      · rintro ⟨i, hi, ⟨a, ha, -⟩, -⟩
        rw [Nat.le_zero.mp hi] at ha
        exact absurd (hfirst.symm.trans ha) (by simp)
    | ok a =>
      rw [run_bind_ok hfirst]
      dsimp only
      split_ifs with hgood
      · exact ⟨fun _ => ⟨0, Nat.le_refl _, ⟨a, hfirst, hgood⟩, fun j hj => absurd hj (Nat.not_lt_zero j)⟩,
          fun _ => rfl⟩
      · constructor
        · intro h
          exact absurd h (hlate _)
        · rintro ⟨i, hi, ⟨b, hb, hgood'⟩, -⟩
          rw [Nat.le_zero.mp hi] at hb
          cases hfirst.symm.trans hb
          exact absurd hgood' hgood
  | succ tries ih =>
    rw [pollUntil]
    cases hfirst : (look.run m d).result with
    | error e =>
      rw [run_bind_error hfirst]
      constructor
      · rintro ⟨⟩
      · rintro ⟨i, -, ⟨a, ha, -⟩, hbefore⟩
        have hzero : ∃ a, lookAt m look 0 d = .ok a := by
          cases i with
          | zero => exact ⟨a, ha⟩
          | succ i => exact hbefore 0 (Nat.succ_pos i)
        obtain ⟨b, hb⟩ := hzero
        exact absurd (hfirst.symm.trans hb) (by simp)
    | ok a =>
      rw [run_bind_ok hfirst]
      dsimp only
      split_ifs with hgood
      · exact ⟨fun _ => ⟨0, Nat.zero_le _, ⟨a, hfirst, hgood⟩,
          fun j hj => absurd hj (Nat.not_lt_zero j)⟩, fun _ => rfl⟩
      · rw [ih]
        constructor
        · rintro ⟨i, hi, hlook, hbefore⟩
          refine ⟨i + 1, Nat.succ_le_succ hi, hlook, fun j hj => ?_⟩
          cases j with
          | zero => exact ⟨a, hfirst⟩
          | succ j => exact hbefore j (Nat.lt_of_succ_lt_succ hj)
        · rintro ⟨i, hi, hlook, hbefore⟩
          cases i with
          | zero =>
            obtain ⟨b, hb, hgood'⟩ := hlook
            cases hfirst.symm.trans hb
            exact absurd hgood' hgood
          | succ i =>
            exact ⟨i, Nat.le_of_succ_le_succ hi, hlook, fun j hj =>
              hbefore (j + 1) (Nat.succ_lt_succ hj)⟩

end Run

/-- A look that leaves the device where it is sees the same again and again. -/
theorem lookAt_of_ends {m : Machine δ Q A} {look : Script Q A ε α} {d : δ} {a : α}
    (h : Ends m look d (.ok a) d) (n : ℕ) : lookAt m look n d = .ok a := by
  induction n with
  | zero => exact h.1
  | succ n ih => rw [lookAt_succ, h.2, ih]

/-- What the loop behind `start` decides in the run `o`: the round it ends well in, or none in
time, which raises `e`. -/
def Decides (m : Machine δ Q A) (start : Script Q A ε β) (look : Script Q A ε α) (e : ε) (d : δ)
    (o : Outcome δ Q A ε Unit) : Option ℕ → Prop
  | some i => o.result = .ok () ∧
      o.sent = (start.run m d).sent ++ looksSent m look (i + 1) (start.run m d).device
  | none => o.result = .error e

theorem Decides.unique {m : Machine δ Q A} {start : Script Q A ε β} {look : Script Q A ε α} {e : ε}
    {d : δ} {o : Outcome δ Q A ε Unit} {r r' : Option ℕ} (hlook : ∀ d, (look.run m d).sent ≠ [])
    (h : Decides m start look e d o r)
    (h' : Decides m start look e d o r') : r = r' := by
  cases r with
  | none =>
    cases r' with
    | none => rfl
    | some i => exact absurd (h.symm.trans h'.1) (by simp)
  | some i =>
    cases r' with
    | none => exact absurd (h'.symm.trans h.1) (by simp)
    | some j =>
      have hsent := List.append_cancel_left (h.2.symm.trans h'.2)
      rw [Nat.succ.inj (looksSent_inj m look hlook hsent)]

/-- The loop decides for the first good look; the report of a timeout takes one more. -/
theorem decides_pollUntil {m : Machine δ Q A} {start : Script Q A ε β} {look : Script Q A ε α}
    {ok : β → α → Bool} {e : ε} {b : β} {d : δ} {seen : ℕ → α}
    (hstart : (start.run m d).result = .ok b)
    (hseen : ∀ i, lookAt m look i (start.run m d).device = .ok (seen i)) (tries : ℕ) :
    Decides m start look e d
      ((start >>= fun b => pollUntil look (ok b) (look >>= fun _ => raise e) tries).run m d)
      (firstGood (ok b) seen tries) := by
  have hloop := @run_pollUntil δ Q A ε α m look (ok b) (look >>= fun _ => raise e) seen tries
    (start.run m d).device fun i _ => hseen i
  rw [run_bind_ok hstart, hloop]
  cases firstGood (ok b) seen tries with
  | some i => exact ⟨rfl, rfl⟩
  | none =>
    show ((look >>= fun _ => raise e).run m _).result = .error e
    rw [run_bind_ok (hseen (tries + 1))]
    rfl

/-! ## §4 What it asks for -/

theorem asks_pollUntil {φ : Q → Prop} {look : Script Q A ε α} {late : Script Q A ε Unit}
    (ok : α → Bool) (hlook : look.Asks φ) (hlate : late.Asks φ) (tries : ℕ) :
    (pollUntil look ok late tries).Asks φ := by
  induction tries with
  | zero =>
    apply asks_bind hlook
    intro a
    split_ifs
    · exact asks_done _
    · exact hlate
  | succ tries ih =>
    apply asks_bind hlook
    intro a
    split_ifs
    · exact asks_done _
    · exact ih

end Script
