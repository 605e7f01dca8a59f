import Mathlib.Data.List.Infix

/-!
# Clients in conversation with a server

A client keeps a state of its own, sends requests one at a time and goes on according to the
answers; it ends with a result or an exception, and an exception leaves what it has done to its
state and what it has sent.  The server is any function of the requests so far.

A turn is what one program of the client came to against one server: the result, the state and
the exchanges.  What a program does in every turn is composed from what its parts do.
-/

namespace Conversation

variable {σ Q A ε α β : Type}

/-- Any server: the answer to the last of the requests it has been sent. -/
abbrev Server (Q A : Type) := List Q → A

/-- The server once it has answered `sent`. -/
def Server.after (serve : Server Q A) (sent : List (Q × A)) : Server Q A :=
  fun requests => serve (sent.map Prod.fst ++ requests)

@[simp] theorem Server.after_nil (serve : Server Q A) : serve.after [] = serve := rfl

/-- What a program came to. -/
structure Turn (σ Q A ε α : Type) where
  result : Except ε α
  client : σ
  sent : List (Q × A) := []
  deriving DecidableEq

/-- A program of a client with state `σ`. -/
def Program (σ Q A ε α : Type) := Server Q A → σ → Turn σ Q A ε α

namespace Program

/-- End well. -/
def pure (a : α) : Program σ Q A ε α := fun _ c => ⟨.ok a, c, []⟩

/-- End with an exception. -/
def raise (e : ε) : Program σ Q A ε α := fun _ c => ⟨.error e, c, []⟩

/-- Go on with `f` once `p` has ended well. -/
def bind (p : Program σ Q A ε α) (f : α → Program σ Q A ε β) : Program σ Q A ε β := fun serve c =>
  match (p serve c).result with
  | .error e => ⟨.error e, (p serve c).client, (p serve c).sent⟩
  | .ok a =>
    let rest := f a (serve.after (p serve c).sent) (p serve c).client
    { rest with sent := (p serve c).sent ++ rest.sent }

instance : Monad (Program σ Q A ε) where
  pure := pure
  bind := bind

/-- A computation that sends nothing. -/
def ofExcept (r : Except ε α) : Program σ Q A ε α := fun _ c => ⟨r, c, []⟩

/-- The client's own state. -/
def state : Program σ Q A ε σ := fun _ c => ⟨.ok c, c, []⟩

/-- Change the client's own state. -/
def modify (f : σ → σ) : Program σ Q A ε Unit := fun _ c => ⟨.ok (), f c, []⟩

/-- Send a request. -/
def ask (q : Q) : Program σ Q A ε A := fun serve c => ⟨.ok (serve [q]), c, [(q, serve [q])]⟩

/-! ## One turn -/

section Turns

variable {serve : Server Q A} {c : σ}

@[simp] theorem pure_apply (a : α) : (Pure.pure a : Program σ Q A ε α) serve c = ⟨.ok a, c, []⟩ :=
  rfl

@[simp] theorem raise_apply (e : ε) : (raise e : Program σ Q A ε α) serve c = ⟨.error e, c, []⟩ :=
  rfl

theorem bind_of_ok {p : Program σ Q A ε α} {f : α → Program σ Q A ε β} {a : α}
    (h : (p serve c).result = .ok a) :
    (p >>= f) serve c =
      { f a (serve.after (p serve c).sent) (p serve c).client with
        sent := (p serve c).sent ++
          (f a (serve.after (p serve c).sent) (p serve c).client).sent } := by
  show bind p f serve c = _
  unfold bind
  rw [h]

theorem bind_of_error {p : Program σ Q A ε α} {f : α → Program σ Q A ε β} {e : ε}
    (h : (p serve c).result = .error e) :
    (p >>= f) serve c = ⟨.error e, (p serve c).client, (p serve c).sent⟩ := by
  show bind p f serve c = _
  unfold bind
  rw [h]

theorem state_bind (f : σ → Program σ Q A ε α) : (state >>= f) serve c = f c serve c := rfl

/-- Two programs that come to the same turn go on alike where what follows does. -/
theorem bind_congr {p q : Program σ Q A ε α} {f g : α → Program σ Q A ε β}
    (h : p serve c = q serve c)
    (hf : ∀ a, (p serve c).result = .ok a →
      f a (serve.after (p serve c).sent) (p serve c).client =
        g a (serve.after (p serve c).sent) (p serve c).client) :
    (p >>= f) serve c = (q >>= g) serve c := by
  cases hp : (p serve c).result with
  | error e => rw [bind_of_error hp, bind_of_error (h ▸ hp), h]
  | ok a =>
    rw [bind_of_ok hp, bind_of_ok (h ▸ hp), hf a hp, h]

end Turns

/-! ## Every turn -/

/-- `P` holds of what the program came to, against every server and from every state. -/
def Always (p : Program σ Q A ε α) (P : Except ε α → List (Q × A) → Prop) : Prop :=
  ∀ serve c, P (p serve c).result (p serve c).sent

section Always

variable {p : Program σ Q A ε α} {f : α → Program σ Q A ε β}

theorem Always.imp {P R : Except ε α → List (Q × A) → Prop} (h : p.Always P)
    (hPR : ∀ r s, P r s → R r s) : p.Always R :=
  fun serve c => hPR _ _ (h serve c)

/-- What a program does is what its first part does, followed by what the rest does if the first
part ended well. -/
theorem always_bind {P : Except ε α → List (Q × A) → Prop} {R T : Except ε β → List (Q × A) → Prop}
    (hp : p.Always P) (hf : ∀ a s, P (.ok a) s → (f a).Always R)
    (herror : ∀ e s, P (.error e) s → T (.error e) s)
    (hok : ∀ a r s t, P (.ok a) s → R r t → T r (s ++ t)) : (p >>= f).Always T := by
  intro serve c
  have hP := hp serve c
  cases h : (p serve c).result with
  | error e =>
    rw [bind_of_error h]
    rw [h] at hP
    exact herror e _ hP
  | ok a =>
    rw [bind_of_ok h]
    rw [h] at hP
    exact hok a _ _ _ hP (hf a _ hP _ _)

/-- The exchanges of a kind are counted part by part. -/
theorem always_countP_bind {φ : Q × A → Bool} {m n : ℕ} (hp : p.Always fun _ s => s.countP φ ≤ m)
    (hf : ∀ a, (f a).Always fun _ s => s.countP φ ≤ n) :
    (p >>= f).Always fun _ s => s.countP φ ≤ m + n := by
  refine always_bind hp (fun a _ _ => hf a) (fun _ _ h => Nat.le_add_right_of_le h) ?_
  intro _ _ s t hs ht
  rw [List.countP_append]
  exact Nat.add_le_add hs ht

/-- What the first part sends is sent first. -/
theorem sent_prefix_bind (p : Program σ Q A ε α) (f : α → Program σ Q A ε β) (serve : Server Q A)
    (c : σ) : (p serve c).sent <+: ((p >>= f) serve c).sent := by
  cases h : (p serve c).result with
  | error e => rw [bind_of_error h]
  | ok a =>
    rw [bind_of_ok h]
    exact List.prefix_append _ _

end Always

/-! ## What a program returns -/

/-- Where the program ends well, it is with a result of which `φ` holds. -/
def Returns (φ : α → Prop) (p : Program σ Q A ε α) : Prop :=
  p.Always fun r _ => ∀ a, r = .ok a → φ a

theorem returns_bind {p : Program σ Q A ε α} {f : α → Program σ Q A ε β} {φ : α → Prop}
    {ψ : β → Prop} (hp : Returns φ p) (hf : ∀ a, φ a → Returns ψ (f a)) : Returns ψ (p >>= f) :=
  always_bind hp (R := fun r _ => ∀ b, r = .ok b → ψ b) (fun a _ h => hf a (h a rfl))
    (fun _ _ _ _ h => nomatch h) fun _ _ _ _ _ h => h

theorem returns_trivial (p : Program σ Q A ε α) : Returns (fun _ => True) p :=
  fun _ _ _ _ => trivial

theorem returns_pure {φ : α → Prop} {a : α} (h : φ a) :
    Returns φ (Pure.pure a : Program σ Q A ε α) := by
  intro serve c b hb
  obtain rfl : a = b := Except.ok.inj hb
  exact h

theorem returns_raise (φ : α → Prop) (e : ε) : Returns φ (raise e : Program σ Q A ε α) :=
  fun _ _ _ h => nomatch h

theorem returns_ofExcept (x : Except ε α) :
    Returns (fun a => x = .ok a) (ofExcept x : Program σ Q A ε α) :=
  fun _ _ _ h => h

end Program

/-! ## Calls one after another -/

/-- The turns of a client's calls.  A call that raises leaves its client for the next. -/
def turns (serve : Server Q A) (c : σ) : List (Program σ Q A ε α) → List (Turn σ Q A ε α)
  | [] => []
  | p :: ps => p serve c :: turns (serve.after (p serve c).sent) (p serve c).client ps

end Conversation
