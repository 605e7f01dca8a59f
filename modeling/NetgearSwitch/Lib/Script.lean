import Mathlib.Order.Basic

/-!
# Scripts and machines

A script is what a client does with one device: it asks, goes on according to the answer, and
ends with a result or an exception.  It is a tree, so what it does with every device is read off
it by induction.  A machine is a device with a state of its own; a script run on one leaves a
result, the state it has brought the device to, and what was asked and answered on the way.

§1 scripts · §2 runs · §3 what a script asks for · §4 what a run keeps · §5 what a run does not
raise · §6 what comes before a request
-/

/-! ## §1 Scripts -/

inductive Script (Q A ε α : Type) : Type where
  | done (r : Except ε α)
  | ask (q : Q) (k : A → Script Q A ε α)

/-- A device: the state a request leaves it in, and its answer. -/
abbrev Machine (δ Q A : Type) := δ → Q → δ × A

namespace Script

variable {δ Q A ε ε' α β : Type}

def raise (e : ε) : Script Q A ε α := done (.error e)

/-- Go on only where `c` holds. -/
def ensure (c : Prop) [Decidable c] (e : ε) : Script Q A ε Unit :=
  done (if c then .ok () else .error e)

/-- Ask and return the answer. -/
def call (q : Q) : Script Q A ε A := ask q fun a => done (.ok a)

/-- Go on with `f` once `p` has ended well. -/
def bind : Script Q A ε α → (α → Script Q A ε β) → Script Q A ε β
  | done (.ok a), f => f a
  | done (.error e), _ => done (.error e)
  | ask q k, f => ask q fun a => (k a).bind f

instance : Monad (Script Q A ε) where
  pure a := done (.ok a)
  bind := bind

theorem bind_assoc {γ : Type} (p : Script Q A ε α) (f : α → Script Q A ε β)
    (g : β → Script Q A ε γ) : (p >>= f) >>= g = p >>= fun a => f a >>= g := by
  show (p.bind f).bind g = p.bind fun a => (f a).bind g
  induction p with
  | done r =>
    cases r with
    | error e => rfl
    | ok a => rfl
  | ask q k ih =>
    simp only [bind]
    congr 1
    funext a
    exact ih a

/-- `try`: the exception becomes the result. -/
def attempt : Script Q A ε α → Script Q A ε' (Except ε α)
  | done r => done (.ok r)
  | ask q k => ask q fun a => (k a).attempt

/-! ## §2 Runs -/

/-- What a script came to. -/
structure Outcome (δ Q A ε α : Type) where
  result : Except ε α
  device : δ
  sent : List (Q × A) := []

/-- A run that goes on where this one ended well. -/
def Outcome.andThen (o : Outcome δ Q A ε α) (f : α → δ → Outcome δ Q A ε β) :
    Outcome δ Q A ε β :=
  match o.result with
  | .error e => ⟨.error e, o.device, o.sent⟩
  | .ok a => { f a o.device with sent := o.sent ++ (f a o.device).sent }

def run (m : Machine δ Q A) : Script Q A ε α → δ → Outcome δ Q A ε α
  | done r, d => ⟨r, d, []⟩
  | ask q k, d =>
    let rest := run m (k (m d q).2) (m d q).1
    { rest with sent := (q, (m d q).2) :: rest.sent }

section Runs

variable {m : Machine δ Q A} {d : δ}

@[simp] theorem run_done (r : Except ε α) : (done r : Script Q A ε α).run m d = ⟨r, d, []⟩ := rfl

@[simp] theorem run_pure (a : α) : (pure a : Script Q A ε α).run m d = ⟨.ok a, d, []⟩ := rfl

@[simp] theorem run_raise (e : ε) : (raise e : Script Q A ε α).run m d = ⟨.error e, d, []⟩ := rfl

@[simp] theorem run_call (q : Q) :
    (call q : Script Q A ε A).run m d = ⟨.ok (m d q).2, (m d q).1, [(q, (m d q).2)]⟩ :=
  rfl

theorem sent_ask_ne_nil (q : Q) (k : A → Script Q A ε α) : ((ask q k).run m d).sent ≠ [] :=
  List.cons_ne_nil _ _

@[simp] theorem ensure_of_pos {c : Prop} [Decidable c] (h : c) (e : ε) :
    (ensure c e : Script Q A ε Unit) = pure () :=
  congrArg done (if_pos h)

@[simp] theorem ensure_of_neg {c : Prop} [Decidable c] (h : ¬c) (e : ε) :
    (ensure c e : Script Q A ε Unit) = raise e :=
  congrArg done (if_neg h)

theorem run_bind (p : Script Q A ε α) (f : α → Script Q A ε β) :
    (p >>= f).run m d = (p.run m d).andThen fun a => (f a).run m := by
  show (p.bind f).run m d = _
  induction p generalizing d with
  | done r =>
    cases r with
    | error e => rfl
    | ok a => rfl
  | ask q k ih =>
    have hrest := @ih (m d q).2 (m d q).1
    simp only [bind, run, hrest, Outcome.andThen]
    split <;> rfl

theorem run_bind_ok {p : Script Q A ε α} {f : α → Script Q A ε β} {a : α}
    (h : (p.run m d).result = .ok a) :
    (p >>= f).run m d =
      { (f a).run m (p.run m d).device with
        sent := (p.run m d).sent ++ ((f a).run m (p.run m d).device).sent } := by
  rw [run_bind, Outcome.andThen, h]

theorem run_bind_error {p : Script Q A ε α} {f : α → Script Q A ε β} {e : ε}
    (h : (p.run m d).result = .error e) :
    (p >>= f).run m d = ⟨.error e, (p.run m d).device, (p.run m d).sent⟩ := by
  rw [run_bind, Outcome.andThen, h]

theorem run_done_bind {r : Except ε α} {f : α → Script Q A ε β} {a : α} (h : r = .ok a) :
    (done r >>= f).run m d = (f a).run m d := by
  subst h
  rfl

theorem run_done_bind_error {r : Except ε α} {f : α → Script Q A ε β} {e : ε} (h : r = .error e) :
    (done r >>= f).run m d = ⟨.error e, d, []⟩ := by
  subst h
  rfl

/-- What ends without asking anything leaves the device where it is. -/
theorem device_bind_done (p : Script Q A ε α) (r : α → Except ε β) :
    ((p >>= fun a => done (r a)).run m d).device = (p.run m d).device := by
  rw [run_bind, Outcome.andThen]
  split <;> rfl

theorem run_attempt (p : Script Q A ε α) :
    (p.attempt : Script Q A ε' (Except ε α)).run m d =
      ⟨.ok (p.run m d).result, (p.run m d).device, (p.run m d).sent⟩ := by
  induction p generalizing d with
  | done r => rfl
  | ask q k ih =>
    have hrest := @ih (m d q).2 (m d q).1
    simp only [attempt, run, hrest]

end Runs

/-- A run ends with the result `r` and leaves the device at `d'`. -/
def Ends (m : Machine δ Q A) (p : Script Q A ε α) (d : δ) (r : Except ε α) (d' : δ) : Prop :=
  (p.run m d).result = r ∧ (p.run m d).device = d'

section Ends

variable {m : Machine δ Q A} {d d' d'' : δ} {p : Script Q A ε α} {f : α → Script Q A ε β}

theorem ends_done (r : Except ε α) : Ends m (done r) d r d := ⟨rfl, rfl⟩

theorem Ends.of_done {r r' : Except ε α} (h : Ends m (done r) d r' d') : r = r' ∧ d = d' := h

/-- What goes on behind a check has passed it. -/
theorem Ends.of_ensure {c : Prop} [Decidable c] {e : ε} {u : Unit}
    (h : Ends m (ensure c e : Script Q A ε Unit) d (.ok u) d') : c ∧ d = d' := by
  by_cases hc : c
  · exact ⟨hc, h.2⟩
  · rw [ensure_of_neg hc] at h
    cases h.1

theorem ends_ensure {c : Prop} [Decidable c] (h : c) (e : ε) :
    Ends m (ensure c e : Script Q A ε Unit) d (.ok ()) d := by
  rw [ensure_of_pos h]
  exact ends_done _

theorem ends_ensure_of_not {c : Prop} [Decidable c] (h : ¬ c) (e : ε) :
    Ends m (ensure c e : Script Q A ε Unit) d (.error e) d := by
  rw [ensure_of_neg h]
  exact ends_done _

theorem ends_call {q : Q} {a : A} (h : m d q = (d', a)) :
    Ends m (call q : Script Q A ε A) d (.ok a) d' := by
  rw [Ends, run_call, h]
  exact ⟨rfl, rfl⟩

theorem Ends.bind {a : α} {r : Except ε β} (hp : Ends m p d (.ok a) d')
    (hf : Ends m (f a) d' r d'') : Ends m (p >>= f) d r d'' := by
  obtain ⟨hresult, rfl⟩ := hp
  rw [Ends, run_bind_ok hresult]
  exact hf

theorem Ends.bind_error {e : ε} (hp : Ends m p d (.error e) d') :
    Ends m (p >>= f) d (.error e) d' := by
  obtain ⟨hresult, rfl⟩ := hp
  rw [Ends, run_bind_error hresult]
  exact ⟨rfl, rfl⟩

theorem Ends.of_bind {a : α} {r : Except ε β} (hp : Ends m p d (.ok a) d')
    (h : Ends m (p >>= f) d r d'') : Ends m (f a) d' r d'' := by
  obtain ⟨hresult, rfl⟩ := hp
  rw [Ends, run_bind_ok hresult] at h
  exact h

/-- What ends well went through its first part. -/
theorem Ends.exists_of_bind {b : β} (h : Ends m (p >>= f) d (.ok b) d'') :
    ∃ a d', Ends m p d (.ok a) d' ∧ Ends m (f a) d' (.ok b) d'' := by
  cases hresult : (p.run m d).result with
  | error e =>
    rw [Ends, run_bind_error hresult] at h
    cases h.1
  | ok a => exact ⟨a, _, ⟨hresult, rfl⟩, Ends.of_bind ⟨hresult, rfl⟩ h⟩

theorem Ends.unique {r r' : Except ε α} (h : Ends m p d r d') (h' : Ends m p d r' d'') :
    r = r' ∧ d' = d'' := ⟨h.1.symm.trans h'.1, h.2.symm.trans h'.2⟩

theorem Ends.sent_bind {a : α} (hp : Ends m p d (.ok a) d') :
    ((p >>= f).run m d).sent = (p.run m d).sent ++ ((f a).run m d').sent := by
  obtain ⟨hresult, rfl⟩ := hp
  rw [run_bind_ok hresult]

theorem Ends.sent_bind_error {e : ε} (hp : Ends m p d (.error e) d') :
    ((p >>= f).run m d).sent = (p.run m d).sent := by
  obtain ⟨hresult, rfl⟩ := hp
  rw [run_bind_error hresult]

end Ends

/-! ## §3 What a script asks for -/

/-- Whatever the device answers, `φ` holds of everything the script asks for. -/
def Asks (φ : Q → Prop) : Script Q A ε α → Prop
  | done _ => True
  | ask q k => φ q ∧ ∀ a, (k a).Asks φ

section Asks

variable {φ ψ : Q → Prop} {p : Script Q A ε α} {f : α → Script Q A ε β}

theorem asks_done (r : Except ε α) : (done r : Script Q A ε α).Asks φ := trivial

theorem asks_call {q : Q} (h : φ q) : (call q : Script Q A ε A).Asks φ := ⟨h, fun _ => trivial⟩

theorem Asks.imp (h : p.Asks φ) (himp : ∀ q, φ q → ψ q) : p.Asks ψ := by
  induction p with
  | done r => trivial
  | ask q k ih => exact ⟨himp q h.1, fun a => ih a (h.2 a)⟩

theorem asks_bind (hp : p.Asks φ) (hf : ∀ a, (f a).Asks φ) : (p >>= f).Asks φ := by
  show (p.bind f).Asks φ
  induction p with
  | done r =>
    cases r with
    | error e => trivial
    | ok a => exact hf a
  | ask q k ih => exact ⟨hp.1, fun a => ih a (hp.2 a)⟩

theorem asks_done_bind {r : Except ε α} (hf : ∀ a, r = .ok a → (f a).Asks φ) :
    (done r >>= f).Asks φ := by
  cases r with
  | error e => trivial
  | ok a => exact hf a rfl

theorem asks_attempt (hp : p.Asks φ) : (p.attempt : Script Q A ε' (Except ε α)).Asks φ := by
  induction p with
  | done r => trivial
  | ask q k ih => exact ⟨hp.1, fun a => ih a (hp.2 a)⟩

/-- What a script asks for is what it sends, to any device. -/
theorem Asks.sent (h : p.Asks φ) (m : Machine δ Q A) (d : δ) :
    ∀ x ∈ (p.run m d).sent, φ x.1 := by
  induction p generalizing d with
  | done r =>
    intro x hx
    cases hx
  | ask q k ih =>
    intro x hx
    rcases List.mem_cons.mp hx with rfl | hx
    · exact h.1
    · exact ih _ (h.2 _) _ x hx

/-- What a script never asks for is not among what it sends. -/
theorem Asks.filterMap_sent {γ : Type} {g : Q → Option γ} (h : p.Asks fun q => g q = none)
    (m : Machine δ Q A) (d : δ) : (p.run m d).sent.filterMap (fun x => g x.1) = [] :=
  List.filterMap_eq_nil_iff.mpr (h.sent m d)

end Asks

/-! ## §4 What a run keeps -/

/-- Whatever a run of the script came to, `I` holds of the device if it held before. -/
def Keeps (m : Machine δ Q A) (I : δ → Prop) (p : Script Q A ε α) : Prop :=
  ∀ d, I d → I (p.run m d).device

section Keeps

variable {m : Machine δ Q A} {I : δ → Prop} {p : Script Q A ε α} {f : α → Script Q A ε β}

theorem keeps_done (r : Except ε α) : Keeps m I (done r : Script Q A ε α) := fun _ h => h

theorem keeps_bind (hp : Keeps m I p) (hf : ∀ a, Keeps m I (f a)) : Keeps m I (p >>= f) := by
  intro d hd
  have hmid := hp d hd
  cases h : (p.run m d).result with
  | error e =>
    rw [run_bind_error h]
    exact hmid
  | ok a =>
    rw [run_bind_ok h]
    exact hf a _ hmid

/-- A part that has got to `I` is followed by one that keeps it. -/
theorem Keeps.after {d : δ} (hp : I (p.run m d).device) (hf : ∀ a, Keeps m I (f a)) :
    I ((p >>= f).run m d).device := by
  rw [run_bind, Outcome.andThen]
  split
  · exact hp
  · exact hf _ _ hp

/-- A script keeps what every request it makes keeps. -/
theorem keeps_of_asks {φ : Q → Prop} (hp : p.Asks φ)
    (hφ : ∀ q d, φ q → I d → I (m d q).1) : Keeps m I p := by
  induction p with
  | done r => exact keeps_done r
  | ask q k ih =>
    intro d hd
    exact ih _ (hp.2 _) _ (hφ q d hp.1 hd)

/-- Every request a run of the script makes is one that `φ` allows in the state it meets. -/
def Heeds (m : Machine δ Q A) (φ : δ → Q → Prop) : Script Q A ε α → δ → Prop
  | done _, _ => True
  | ask q k, d => φ d q ∧ (k (m d q).2).Heeds m φ (m d q).1

/-- What is allowed wherever an invariant holds, and keeps it, is allowed all along the run. -/
theorem Asks.heeds_of_keeps {ψ : Q → Prop} {φ : δ → Q → Prop} (h : p.Asks ψ)
    (hstep : ∀ d q, I d → ψ q → φ d q ∧ I (m d q).1) {d : δ} (hd : I d) :
    p.Heeds m φ d ∧ I (p.run m d).device := by
  induction p generalizing d with
  | done r => exact ⟨trivial, hd⟩
  | ask q k ih =>
    obtain ⟨hφ, hnext⟩ := hstep d q hd h.1
    obtain ⟨hheeds, hend⟩ := ih _ (h.2 _) hnext
    exact ⟨⟨hφ, hheeds⟩, hend⟩

/-- What every allowed request keeps, a run of allowed requests keeps. -/
theorem Heeds.device {φ : δ → Q → Prop} (hstep : ∀ d q, I d → φ d q → I (m d q).1) {d : δ}
    (h : p.Heeds m φ d) (hd : I d) : I (p.run m d).device := by
  induction p generalizing d with
  | done r => exact hd
  | ask q k ih =>
    obtain ⟨hq, hrest⟩ := h
    exact ih _ hrest (hstep d q hd hq)

end Keeps

/-! ## §5 What a run does not raise -/

/-- No run of the script ends with the exception `e`. -/
def Avoids (m : Machine δ Q A) (e : ε) (p : Script Q A ε α) : Prop :=
  ∀ d, (p.run m d).result ≠ .error e

section Avoids

variable {m : Machine δ Q A} {e : ε} {p : Script Q A ε α} {f : α → Script Q A ε β}

theorem avoids_done {r : Except ε α} (h : r ≠ .error e) : Avoids m e (done r : Script Q A ε α) :=
  fun _ => h

theorem avoids_bind (hp : Avoids m e p) (hf : ∀ a, Avoids m e (f a)) : Avoids m e (p >>= f) := by
  intro d h
  cases hresult : (p.run m d).result with
  | error e' =>
    rw [run_bind_error hresult] at h
    cases h
    exact hp d hresult
  | ok a =>
    rw [run_bind_ok hresult] at h
    exact hf a _ h

end Avoids

/-! ## §6 What comes before a request -/

/-- A device that gives its answers in turn, whatever it is asked. -/
def replies (answers : ℕ → A) : Machine ℕ Q A := fun i _ => (i + 1, answers i)

/-- What `g` reads off a request is backed by an exchange that came before it. -/
def Backed {γ : Type} (g : Q → Option γ) (R : γ → Q × A → Prop) (sent : List (Q × A)) : Prop :=
  ∀ pre x post c, sent = pre ++ x :: post → g x.1 = some c → ∃ y ∈ pre, R c y

section Backed

variable {γ : Type} {g : Q → Option γ} {R : γ → Q × A → Prop} {sent pre post : List (Q × A)}

theorem backed_of_none (h : ∀ x ∈ sent, g x.1 = none) : Backed g R sent := by
  rintro pre x post c rfl hc
  have hnone := h x (List.mem_append_right _ List.mem_cons_self)
  rw [hc] at hnone
  cases hnone

/-- Where there is one request to back, the exchanges before it have to do it. -/
theorem backed_append_cons_iff {x : Q × A} {c : γ} (hpre : ∀ y ∈ pre, g y.1 = none)
    (hx : g x.1 = some c) (hpost : ∀ y ∈ post, g y.1 = none) :
    Backed g R (pre ++ x :: post) ↔ ∃ y ∈ pre, R c y := by
  constructor
  · intro h
    exact h pre x post c rfl hx
  · rintro ⟨y, hy, hR⟩ pre' x' post' c' heq hc'
    rcases List.append_eq_append_iff.mp heq with ⟨mid, rfl, hmid⟩ | ⟨mid, rfl, hmid⟩
    · cases mid with
      | nil =>
        obtain ⟨rfl, -⟩ := List.cons.inj hmid
        obtain rfl := Option.some.inj (hx.symm.trans hc')
        exact ⟨y, by rwa [List.append_nil], hR⟩
      | cons z mid =>
        obtain ⟨rfl, rfl⟩ := List.cons.inj hmid
        have hnone := hpost x' (List.mem_append_right _ List.mem_cons_self)
        rw [hc'] at hnone
        cases hnone
    · cases mid with
      | nil =>
        obtain ⟨rfl, -⟩ := List.cons.inj hmid
        obtain rfl := Option.some.inj (hx.symm.trans hc')
        exact ⟨y, by rwa [List.append_nil] at hy, hR⟩
      | cons z mid =>
        obtain ⟨rfl, -⟩ := List.cons.inj hmid
        have hnone := hpre x' (List.mem_append_right _ List.mem_cons_self)
        rw [hc'] at hnone
        cases hnone

end Backed

end Script
