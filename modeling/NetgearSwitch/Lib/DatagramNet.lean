import NetgearSwitch.Lib.BigEndian

/-!
# Request and reply over a lossy datagram network

One server answers the request datagrams of one requester.  A request may be lost, and a reply
may be lost, delayed or duplicated: every reply the server has ever emitted stays available,
and at each exchange the network delivers any one of them, or none.

Each reply carries the number of the exchange whose request the server answered with it.
-/

namespace DatagramNet

/-- A reply in the network, with the exchange it was emitted in. -/
structure Datagram where
  origin : ℕ
  payload : Bytes
  deriving DecidableEq

/-- What the network does with one exchange: whether the request gets through, and which of
the replies emitted so far the requester receives. -/
structure Delivery where
  requestArrives : Bool
  reply : Option ℕ

/-- The server and everything it has emitted; no reply comes from an exchange to come. -/
structure Net (σ : Type*) where
  server : σ
  exchanges : ℕ
  emitted : List Datagram
  origin_lt : ∀ dg ∈ emitted, dg.origin < exchanges

/-- A network nothing has passed yet. -/
def Net.fresh {σ : Type*} (server : σ) : Net σ := ⟨server, 0, [], by simp⟩

variable {σ : Type*} (handle : σ → Bytes → σ × Option Bytes)

/-- What the server does in an exchange: nothing where the request is lost. -/
def Net.answer (n : Net σ) (d : Delivery) (request : Bytes) : σ × Option Bytes :=
  if d.requestArrives then handle n.server request else (n.server, none)

/-- One exchange: the network after it, and the datagram the requester receives. -/
def Net.exchange (n : Net σ) (d : Delivery) (request : Bytes) : Net σ × Option Datagram :=
  let reply := (n.answer handle d request).2.map (Datagram.mk n.exchanges)
  ({ server := (n.answer handle d request).1
     exchanges := n.exchanges + 1
     emitted := n.emitted ++ reply.toList
     origin_lt := by
      intro dg hdg
      rcases List.mem_append.mp hdg with hdg | hdg
      · exact Nat.lt_succ_of_lt (n.origin_lt dg hdg)
      · obtain ⟨_, _, rfl⟩ := Option.map_eq_some_iff.mp (Option.mem_toList.mp hdg)
        exact Nat.lt_succ_self _ },
    d.reply.bind fun i => (n.emitted ++ reply.toList)[i]?)

@[simp] theorem Net.exchanges_exchange (n : Net σ) (d : Delivery) (request : Bytes) :
    (n.exchange handle d request).1.exchanges = n.exchanges + 1 := rfl

/-- A received datagram that was emitted in this very exchange is the server's reply to this
very request. -/
theorem Net.handle_of_exchange {n : Net σ} {d : Delivery} {request : Bytes} {dg : Datagram}
    (h : (n.exchange handle d request).2 = some dg) (hown : dg.origin = n.exchanges) :
    (handle n.server request).2 = some dg.payload := by
  simp only [exchange, Option.bind_eq_some_iff] at h
  obtain ⟨i, _, hi⟩ := h
  rcases List.mem_append.mp (List.mem_of_getElem? hi) with hold | hnew
  · have := n.origin_lt dg hold
    omega
  · obtain ⟨payload, hpayload, rfl⟩ := Option.map_eq_some_iff.mp (Option.mem_toList.mp hnew)
    unfold answer at hpayload
    split at hpayload
    · exact hpayload
    · cases hpayload

/-- An exchange in which nothing is lost, and the reply taken is the one just emitted. -/
theorem Net.exchange_prompt {n : Net σ} {request reply : Bytes} {s' : σ}
    (h : handle n.server request = (s', some reply)) :
    ∃ n', n.exchange handle ⟨true, some n.emitted.length⟩ request =
        (n', some ⟨n.exchanges, reply⟩) ∧
      n'.server = s' ∧ n'.exchanges = n.exchanges + 1 ∧
      n'.emitted.length = n.emitted.length + 1 := by
  have hanswer : n.answer handle ⟨true, some n.emitted.length⟩ request = (s', some reply) := h
  refine ⟨(n.exchange handle ⟨true, some n.emitted.length⟩ request).1, Prod.ext rfl ?_, ?_, rfl, ?_⟩
  · simp [exchange, hanswer]
  · simp [exchange, hanswer]
  · simp [exchange, hanswer]

end DatagramNet
