import NetgearSwitch.Registry

/-!
# Library errors

The exception classes the library's readers and writers raise, one constructor a class.  The
Python built-ins that can surface through a writer stand beside them.
-/

namespace NetgearSwitch

inductive LibError
  | unsupportedCapability
  | protectedPort
  | writeVerification
  | snmp
  | nsdp
  | http
  | httpAuth
  | httpUnexpectedPage
  | httpxInvalidUrl
  | httpxCookieConflict
  | cliCommand
  | cliTransport
  | valueError
  | indexError
  | keyError
  | structError
  | unicodeError
  | osError
  deriving DecidableEq, Repr

/-- Read an optional value as one that raises `e` when it is missing. -/
def orRaise {α : Type} (e : LibError) : Option α → Except LibError α
  | some a => .ok a
  | none => .error e

@[simp] theorem orRaise_some {α : Type} (e : LibError) (a : α) : orRaise e (some a) = .ok a := rfl

@[simp] theorem orRaise_none {α : Type} (e : LibError) :
    orRaise e (none : Option α) = .error e := rfl

theorem orRaise_eq_ok {α : Type} {e : LibError} {o : Option α} {a : α} :
    orRaise e o = .ok a ↔ o = some a := by
  cases o <;> simp

/-- A computation that goes on after another ends well where both do. -/
theorem bind_eq_ok {ε α β : Type} {x : Except ε α} {f : α → Except ε β} {b : β} :
    x.bind f = .ok b ↔ ∃ a, x = .ok a ∧ f a = .ok b := by
  cases x <;> simp [Except.bind]

theorem bind_ne_error {ε α β : Type} {x : Except ε α} {f : α → Except ε β} {e : ε}
    (hx : x ≠ .error e) (hf : ∀ a, f a ≠ .error e) : x.bind f ≠ .error e := by
  cases x with
  | error e' =>
    intro h
    cases h
    exact hx rfl
  | ok a => exact hf a

theorem foldlM_ne_error {ε α β : Type} {f : β → α → Except ε β} {e : ε}
    (hf : ∀ b a, f b a ≠ .error e) : ∀ (l : List α) (b : β), l.foldlM f b ≠ .error e
  | [], b => fun h => nomatch h
  | a :: l, b => by
    rw [List.foldlM_cons]
    exact bind_ne_error (hf b a) (foldlM_ne_error hf l)

theorem mapM_ne_error {ε α β : Type} {f : α → Except ε β} {e : ε} (hf : ∀ a, f a ≠ .error e) :
    ∀ l : List α, l.mapM f ≠ .error e
  | [] => fun h => nomatch h
  | a :: l => by
    rw [List.mapM_cons]
    exact bind_ne_error (hf a) fun b => bind_ne_error (mapM_ne_error hf l) fun _ h => nomatch h

theorem mem_of_mapM_eq_ok {ε α β : Type} {f : α → Except ε β} : ∀ {l : List α} {bs : List β},
    l.mapM f = .ok bs → ∀ b ∈ bs, ∃ a ∈ l, f a = .ok b
  | [], bs, h, b, hb => by
    cases h
    cases hb
  | a :: l, bs, h, b, hb => by
    rw [List.mapM_cons] at h
    obtain ⟨b₀, hb₀, h⟩ := bind_eq_ok.mp h
    obtain ⟨bs₀, hbs₀, h⟩ := bind_eq_ok.mp h
    cases h
    rcases List.mem_cons.mp hb with rfl | hb
    · exact ⟨a, List.mem_cons_self, hb₀⟩
    · obtain ⟨a', ha', hfa'⟩ := mem_of_mapM_eq_ok hbs₀ b hb
      exact ⟨a', List.mem_cons_of_mem _ ha', hfa'⟩

theorem map_of_mapM_eq_ok {ε α β γ : Type} {f : α → Except ε β} {g : β → γ} {k : α → γ}
    (hf : ∀ a b, f a = .ok b → g b = k a) : ∀ {l : List α} {bs : List β},
    l.mapM f = .ok bs → bs.map g = l.map k
  | [], bs, h => by
    cases h
    rfl
  | a :: l, bs, h => by
    rw [List.mapM_cons] at h
    obtain ⟨b, hb, h⟩ := bind_eq_ok.mp h
    obtain ⟨bs', hbs, h⟩ := bind_eq_ok.mp h
    cases h
    rw [List.map_cons, List.map_cons, hf a b hb, map_of_mapM_eq_ok hf hbs]

end NetgearSwitch
