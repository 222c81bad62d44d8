import Keywarden.Bytes

/-!
# Randomness

A source of random bytes may refuse a request.  The reproducible source serves
all requests from one stream of numbers and can be told to refuse one of them.
-/

namespace Keywarden

/-- A source of random bytes within a state: a request for a number of bytes is
served, or refused for a reason. -/
structure Entropy (σ : Type) where
  draw : Nat → σ → Except String Bytes × σ

/-- Bytes that were drawn beforehand, as a source that lasts as long as they do. -/
def Entropy.stored : Entropy Bytes where
  draw count bytes :=
    if count ≤ bytes.length then (.ok (bytes.take count), bytes.drop count)
    else (.error "no random bytes are left", bytes)

/-- A reproducible stream of bytes. -/
structure RandomStream where
  /-- The state of the number generator. -/
  state : UInt64
  /-- Bytes generated and not yet served. -/
  pending : Bytes
  /-- Requests made so far. -/
  requests : Nat
  /-- The number of the request that is refused; zero refuses none. -/
  refused : Nat

namespace RandomStream

def ofSeed (seed : UInt64) (refused : Nat) : RandomStream :=
  ⟨seed, [], 0, refused⟩

/-- The number that a state of the generator gives. -/
def mix (state : UInt64) : UInt64 :=
  let first := (state ^^^ (state >>> 30)) * 0xBF58476D1CE4E5B9
  let second := (first ^^^ (first >>> 27)) * 0x94D049BB133111EB
  second ^^^ (second >>> 31)

/-- The bytes of `count` further numbers, and the state after them. -/
def generate (count : Nat) (state : UInt64) : Bytes × UInt64 :=
  match count with
  | 0 => ([], state)
  | count + 1 =>
    let next := state + 0x9E3779B97F4A7C15
    let (rest, final) := generate count next
    (Bytes.ofNatLE 8 (mix next).toNat ++ rest, final)

/-- Serves a request from consecutive bytes; a refused one takes none. -/
def draw (count : Nat) (stream : RandomStream) : Except String Bytes × RandomStream :=
  let requests := stream.requests + 1
  if requests = stream.refused then
    (.error "simulated RNG failure", { stream with requests })
  else
    let missing := (count - stream.pending.length + 7) / 8
    let (fresh, state) := generate missing stream.state
    let available := stream.pending ++ fresh
    (.ok (available.take count),
      { stream with state, pending := available.drop count, requests })

def entropy : Entropy RandomStream :=
  ⟨draw⟩

theorem length_generate (count : Nat) (state : UInt64) :
    (generate count state).1.length = 8 * count := by
  induction count generalizing state with
  | zero => rfl
  | succ count ih =>
    simp only [generate, List.length_append, Bytes.length_ofNatLE, ih]
    omega

/-- A served request has the length that was asked for. -/
theorem length_of_draw {count : Nat} {stream : RandomStream} {served : Bytes}
    (drawn : (stream.draw count).1 = .ok served) : served.length = count := by
  unfold draw at drawn
  simp only at drawn
  split at drawn
  · cases drawn
  · cases drawn
    simp [length_generate]
    omega

end RandomStream

end Keywarden
