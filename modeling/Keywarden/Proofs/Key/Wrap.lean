import Keywarden.Key.Wrap
import Keywarden.Proofs.Action

/-!
# Wrapping is exact

Under a key of 32 bytes a wrapped payload is unwrapped to itself, and nothing is unwrapped but
what wrapping returns.  The nonce in front of a blob says which call of wrapping that would be, so
that a blob that was cut off, changed, or made under another key is told apart by one comparison,
and always reported in the same way.
-/

namespace Keywarden

open Keywarden.Action

/-- Bytes that were drawn beforehand are served as they are. -/
theorem Entropy.draw_stored (bytes : Bytes) : stored.draw bytes.length bytes = (.ok bytes, []) := by
  simp [stored]

namespace Key

variable {σ : Type} {entropy : Entropy σ} {before after : σ} {key nonce payload blob : Bytes}

theorem length_wrapWith (sized : nonce.length = 12) :
    (wrapWith key nonce payload).length = payload.length + 28 := by
  rw [wrapWith, List.length_append, Cipher.Gcm.length_encrypt, sized]
  omega

/-- Wrapping returns the blob of the nonce that it draws, and nothing else. -/
theorem returns_wrap (length_eq : key.length = 32)
    (drawn : entropy.draw 12 before = (.ok nonce, after)) :
    (wrap entropy key payload).Returns before blob after ↔ blob = wrapWith key nonce payload := by
  unfold wrap
  rw [if_pos length_eq]
  have nonceDrawn : (certainRandom entropy 12).Returns before nonce after :=
    returns_random.mpr drawn
  constructor
  · intro returned
    obtain ⟨other, between, otherDrawn, returned⟩ := returns_bind.mp returned
    cases nonceDrawn.symm.trans otherDrawn
    exact (returns_pure.mp returned).1.symm
  · rintro rfl
    exact returns_bind.mpr ⟨nonce, after, nonceDrawn, returns_pure.mpr ⟨rfl, rfl⟩⟩

theorem unwrap_wrapWith (length_eq : key.length = 32) (sized : nonce.length = 12) :
    unwrap key (wrapWith key nonce payload) = .ok payload := by
  have long : ¬ ((wrapWith key nonce payload).length < 12 ∨ key.length ≠ 32) := by
    rw [length_wrapWith sized]
    omega
  rw [unwrap, if_neg long]
  simp [wrapWith, ← sized, Cipher.Gcm.decrypt?_encrypt]

/-- Only what belongs to the nonce in front is unwrapped. -/
theorem unwrap_eq_ok (length_eq : key.length = 32) :
    unwrap key blob = .ok payload ↔
      28 ≤ blob.length ∧ blob = wrapWith key (blob.take 12) payload := by
  constructor
  · intro unwrapped
    unfold unwrap at unwrapped
    split at unwrapped
    · cases unwrapped
    · next accepted =>
      split at unwrapped
      · next found opened =>
        cases unwrapped
        have tail := Cipher.Gcm.eq_encrypt_of_decrypt? opened
        have sized : (blob.take 12).length = 12 := by
          rw [List.length_take]
          omega
        have same : blob = wrapWith key (blob.take 12) payload := by
          rw [wrapWith, ← tail, List.take_append_drop]
        refine ⟨?_, same⟩
        rw [same, length_wrapWith sized]
        omega
      · cases unwrapped
  · rintro ⟨long, same⟩
    have sized : (blob.take 12).length = 12 := by
      rw [List.length_take]
      omega
    rw [same]
    exact unwrap_wrapWith length_eq sized

/-- There is one failure of unwrapping. -/
theorem unwrap_eq_error {failure : Failure} (refused : unwrap key blob = .error failure) :
    failure = unwrapFailure := by
  unfold unwrap at refused
  split at refused
  · cases refused
    rfl
  · split at refused
    · cases refused
    · cases refused
      rfl

/-- Wrapping is exact in both directions: unwrapping undoes it whatever nonce is drawn, and unwraps
nothing but what wrapping returns when it draws the nonce in front of the blob.  Everything else is
refused with one and the same message. -/
theorem wrap_exact (key : Bytes) (length_eq : key.length = 32) :
    (∀ {σ : Type} (entropy : Entropy σ) (before after : σ) (nonce payload : Bytes),
      nonce.length = 12 → entropy.draw 12 before = (.ok nonce, after) →
      ∃ blob, (wrap entropy key payload).Returns before blob after ∧
        blob.length = payload.length + 28 ∧ unwrap key blob = .ok payload) ∧
    ∀ blob : Bytes,
      (∀ payload, unwrap key blob = .ok payload ↔
        28 ≤ blob.length ∧ ∀ {σ : Type} (entropy : Entropy σ) (before after : σ),
          entropy.draw 12 before = (.ok (blob.take 12), after) →
          (wrap entropy key payload).Returns before blob after) ∧
      ((∀ payload, unwrap key blob ≠ .ok payload) →
        ∃ failure, unwrap key blob = .error failure ∧
          failure.message = "Error unwrapping the master key: unwrap failed") := by
  refine ⟨?_, fun blob => ⟨fun payload => ?_, fun other => ?_⟩⟩
  · intro σ entropy before after nonce payload sized drawn
    exact ⟨wrapWith key nonce payload, (returns_wrap length_eq drawn).mpr rfl,
      length_wrapWith sized, unwrap_wrapWith length_eq sized⟩
  · rw [unwrap_eq_ok length_eq]
    refine and_congr_right fun long => ⟨?_, fun wraps => ?_⟩
    · intro same σ entropy before after drawn
      exact (returns_wrap length_eq drawn).mpr same
    · have sized : (blob.take 12).length = 12 := by
        rw [List.length_take]
        omega
      have drawn := Entropy.draw_stored (blob.take 12)
      rw [sized] at drawn
      exact (returns_wrap length_eq drawn).mp (wraps _ _ _ drawn)
  · cases unwrapped : unwrap key blob with
    | ok payload => exact absurd unwrapped (other payload)
    | error failure =>
      rw [unwrap_eq_error unwrapped]
      exact ⟨_, rfl, rfl⟩

/-- A payload of three bytes is wrapped under a nonce of zeros and unwrapped, while the nonce
alone is refused. -/
theorem wrap_exact_zeros :
    let key := Bytes.zeros 32
    let nonce := Bytes.zeros 12
    (∃ blob, (wrap Entropy.stored key [1, 2, 3]).Returns nonce blob [] ∧ blob.length = 31 ∧
      unwrap key blob = .ok [1, 2, 3]) ∧
    ∃ failure, unwrap key nonce = .error failure ∧
      failure.message = "Error unwrapping the master key: unwrap failed" := by
  intro key nonce
  obtain ⟨wraps, unwraps⟩ := wrap_exact key (by decide)
  obtain ⟨unwrapped, refused⟩ := unwraps nonce
  refine ⟨wraps Entropy.stored nonce [] nonce [1, 2, 3] (by decide) (by rfl), refused ?_⟩
  intro payload found
  exact absurd ((unwrapped payload).mp found).1 (by decide)

end Key

end Keywarden
