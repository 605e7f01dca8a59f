import NetgearSwitch.Lib.Script

/-!
# Scripts that refine a specification

A family of scripts, one an operation, refines a specification of the device where each run leaves
the device as the specification has it and answers what it answers.  Operations that fail are part
of it: a run goes on after one.

A device with several faces is written through machines on parts of it; a run of steps of several
kinds is followed one step at a time.

§1 runs of operations · §2 refinement · §3 a part of a device
-/

namespace Script

variable {δ σ ο Q A ε ε' α : Type}

/-! ## §1 Runs of operations -/

/-- Each operation in its turn, whatever came of the ones before it. -/
def runAll (script : ο → Script Q A ε α) : List ο → Script Q A ε' (List (Except ε α))
  | [] => done (.ok [])
  | o :: rest => do
    let r ← (script o).attempt
    let rs ← runAll script rest
    done (.ok (r :: rs))

/-- The same of a specification. -/
def specAll (spec : σ → ο → σ × Except ε α) : σ → List ο → σ × List (Except ε α)
  | s, [] => (s, [])
  | s, o :: rest => ((specAll spec (spec s o).1 rest).1, (spec s o).2 :: (specAll spec (spec s o).1 rest).2)

/-- Every operation finds the state it asks for. -/
def FitAll (fits : σ → ο → Prop) (spec : σ → ο → σ × Except ε α) : σ → List ο → Prop
  | _, [] => True
  | s, o :: rest => fits s o ∧ FitAll fits spec (spec s o).1 rest

/-! ## §2 Refinement -/

/-- The scripts keep `inv` and refine `spec`, the device being seen through `abs`. -/
structure Refines (m : Machine δ Q A) (script : ο → Script Q A ε α) (inv : δ → Prop) (abs : δ → σ)
    (spec : σ → ο → σ × Except ε α) (fits : σ → ο → Prop) : Prop where
  step : ∀ d o, inv d → fits (abs d) o →
    ∃ d', inv d' ∧ abs d' = (spec (abs d) o).1 ∧ Ends m (script o) d (spec (abs d) o).2 d'

section Refines

variable {m : Machine δ Q A} {script : ο → Script Q A ε α} {inv : δ → Prop} {abs : δ → σ}
  {spec : σ → ο → σ × Except ε α} {fits : σ → ο → Prop}

theorem ends_attempt {p : Script Q A ε α} {d d' : δ} {r : Except ε α} (h : Ends m p d r d') :
    Ends m (p.attempt : Script Q A ε' (Except ε α)) d (.ok r) d' := by
  unfold Ends at h ⊢
  rw [run_attempt, h.1, h.2]
  exact ⟨rfl, rfl⟩

/-- **A run of refining scripts is a run of the specification.** -/
theorem Refines.runAll (h : Refines m script inv abs spec fits) {d : δ} {ops : List ο} (hinv : inv d)
    (hfit : FitAll fits spec (abs d) ops) :
    ∃ d', inv d' ∧ abs d' = (specAll spec (abs d) ops).1 ∧
      Ends m (Script.runAll script ops : Script Q A ε' (List (Except ε α))) d
        (.ok (specAll spec (abs d) ops).2) d' := by
  induction ops generalizing d with
  | nil => exact ⟨d, hinv, rfl, ends_done _⟩
  | cons o rest ih =>
    obtain ⟨d₁, hinv₁, habs₁, hends₁⟩ := h.step d o hinv hfit.1
    obtain ⟨d₂, hinv₂, habs₂, hends₂⟩ := ih hinv₁ (by rw [habs₁]; exact hfit.2)
    rw [habs₁] at habs₂ hends₂
    exact ⟨d₂, hinv₂, habs₂, (ends_attempt hends₁).bind (hends₂.bind (ends_done _))⟩

end Refines

/-- A run of steps that follow the specification follows it to its end. -/
theorem specAll_follows {impl : δ → ο → δ × Except ε α} {spec : σ → ο → σ × Except ε α} {inv : δ → Prop}
    {abs : δ → σ} {fits : σ → ο → Prop}
    (hstep : ∀ d o, inv d → fits (abs d) o →
      inv (impl d o).1 ∧ abs (impl d o).1 = (spec (abs d) o).1 ∧ (impl d o).2 = (spec (abs d) o).2)
    {d : δ} {ops : List ο} (hinv : inv d) (hfit : FitAll fits spec (abs d) ops) :
    inv (specAll impl d ops).1 ∧ abs (specAll impl d ops).1 = (specAll spec (abs d) ops).1 ∧
      (specAll impl d ops).2 = (specAll spec (abs d) ops).2 := by
  induction ops generalizing d with
  | nil => exact ⟨hinv, rfl, rfl⟩
  | cons o rest ih =>
    obtain ⟨hinv₁, habs₁, hanswer⟩ := hstep d o hinv hfit.1
    obtain ⟨hinv₂, habs₂, hanswers⟩ := ih hinv₁ (by rw [habs₁]; exact hfit.2)
    rw [habs₁] at habs₂ hanswers
    exact ⟨hinv₂, habs₂, congrArg₂ List.cons hanswer hanswers⟩

/-! ## §3 A part of a device -/

section Parts

variable {m : Machine δ Q A} {part : σ → δ} {put : σ → δ → σ}

/-- A machine on a part of a larger device. -/
def onPart (m : Machine δ Q A) (part : σ → δ) (put : σ → δ → σ) : Machine σ Q A := fun d q =>
  (put d (m (part d) q).1, (m (part d) q).2)

/-- A script on a part of a device ends as it does on the part, which is put back. -/
theorem Ends.onPart (hpart : ∀ d x, part (put d x) = x) (hput : ∀ d x y, put (put d x) y = put d y)
    (hself : ∀ d, put d (part d) = d) {p : Script Q A ε α} {d : σ} {r : Except ε α} {x : δ}
    (h : Ends m p (part d) r x) : Ends (Script.onPart m part put) p d r (put d x) := by
  induction p generalizing d with
  | done r' =>
    obtain ⟨rfl, rfl⟩ := h.of_done
    rw [hself]
    exact ends_done _
  | ask q k ih =>
    have hrest : Ends m (k (m (part d) q).2) (part (put d (m (part d) q).1)) r x := by
      rw [hpart]
      exact h
    have hend := ih _ hrest
    rw [hput] at hend
    exact hend

end Parts

end Script
