import Keywarden.Primitives.Standard
import Keywarden.Proofs.Recipient

/-!
# Sealed boxes open for their recipient

A sealed box is made for a public key that is read from an identifier, in any spelling.  It is
opened with the secret key, since the fresh key pair and that of the recipient agree on a key.
What is opened at all is known as well: the bytes of a public key, a nonce, and a secret box under
the key that is shared with this public key.
-/

namespace Keywarden

open Keywarden.Action

variable {σ : Type} {identity fresh : Identity} {nonce payload blob : Bytes}

namespace Identity

/-- Two key pairs agree: each secret key makes the same point of the other public key. -/
def AgreesWith (left right : Identity) : Prop :=
  Cipher.Curve25519.multiply left.secret right.publicKey.bytes =
    Cipher.Curve25519.multiply right.secret left.publicKey.bytes

theorem AgreesWith.sharedKey_eq (agrees : identity.AgreesWith fresh) :
    identity.sharedKey fresh.publicKey.bytes = fresh.sharedKey identity.publicKey.bytes := by
  rw [sharedKey, sharedKey, agrees]

/-- A blob that is opened consists of a public key, a nonce, and the secret box of the payload. -/
theorem open?_eq_some : identity.open? blob = some payload ↔
    ∃ other nonce, other.length = 32 ∧ nonce.length = 24 ∧
      blob = other ++ nonce ++
        Cipher.SecretBox.close (identity.sharedKey other) nonce payload := by
  constructor
  · intro opened
    unfold open? at opened
    split at opened
    · cases opened
    · next long =>
      have box := Cipher.SecretBox.eq_close_of_open? opened
      refine ⟨blob.take 32, (blob.drop 32).take 24, ?_, ?_, ?_⟩
      · rw [List.length_take]
        omega
      · rw [List.length_take, List.length_drop]
        omega
      · rw [← box, List.append_assoc, ← List.drop_drop (j := 32) (i := 24), List.take_append_drop,
          List.take_append_drop]
  · rintro ⟨other, nonce, otherSized, nonceSized, rfl⟩
    have long : ¬ (other ++ nonce ++
        Cipher.SecretBox.close (identity.sharedKey other) nonce payload).length < 56 := by
      simp only [List.length_append]
      omega
    rw [open?, if_neg long, List.append_assoc, List.take_left' otherSized,
      List.drop_left' otherSized, List.take_left' nonceSized, ← List.append_assoc,
      List.drop_left' (by simp [otherSized, nonceSized])]
    exact Cipher.SecretBox.open?_close _ _ _

/-- An identity opens what is sealed for it by a fresh identity that agrees with it. -/
theorem open?_sealWith (agrees : identity.AgreesWith fresh) (sized : nonce.length = 24)
    (payload : Bytes) :
    identity.open? (SealedBox.sealWith fresh nonce identity.publicKey payload) = some payload := by
  rw [open?_eq_some]
  refine ⟨fresh.publicKey.bytes, nonce, fresh.publicKey.length_eq, sized, ?_⟩
  rw [agrees.sharedKey_eq]
  rfl

theorem ofSecret?_secret (identity : Identity) : ofSecret? identity.secret = some identity := by
  simp [ofSecret?, identity.length_eq]

end Identity

namespace SealedBox

variable {entropy : Entropy σ} {before between after : σ}

private theorem length_sealWith (sized : nonce.length = 24) (recipient : PublicKey) :
    (sealWith fresh nonce recipient payload).length = payload.length + 72 := by
  simp only [sealWith, List.length_append, fresh.publicKey.length_eq, sized,
    Cipher.SecretBox.length_close]
  omega

/-- Sealing for an identifier that is read draws a fresh secret and a nonce. -/
theorem returns_sealFor {recipient : PublicKey} {text : String}
    (parsed : Recipient.parse text = .ok recipient)
    (secretDrawn : entropy.draw 32 before = (.ok fresh.secret, between))
    (nonceDrawn : entropy.draw 24 between = (.ok nonce, after)) (payload : Bytes) :
    (sealFor entropy payload text).Returns before (sealWith fresh nonce recipient payload)
      after := by
  have generated : (Identity.generate entropy).Returns before fresh between := by
    refine returns_bind.mpr ⟨fresh.secret, between, returns_random.mpr secretDrawn, ?_⟩
    rw [fresh.ofSecret?_secret]
    exact returns_pure.mpr ⟨rfl, rfl⟩
  unfold sealFor
  refine returns_bind.mpr ⟨recipient, before, returns_ofExcept.mpr ⟨parsed, rfl⟩, ?_⟩
  refine returns_bind.mpr ⟨fresh, between, generated, ?_⟩
  exact returns_bind.mpr ⟨nonce, after, returns_random.mpr nonceDrawn, returns_pure.mpr ⟨rfl, rfl⟩⟩

end SealedBox

namespace Primitives

/-- The first identity that opens a blob is found, if there is one. -/
theorem openWith?_eq_some {identities : List Identity} {opened : Opened} :
    openWith? identities blob = some opened ↔
      ∃ passed identity others payload, identities = passed ++ identity :: others ∧
        (∀ earlier ∈ passed, earlier.open? blob = none) ∧
        identity.open? blob = some payload ∧ opened = ⟨payload, identity.recipientId⟩ := by
  rw [openWith?, List.findSome?_eq_some_iff]
  constructor
  · rintro ⟨passed, identity, others, same, found, earlier⟩
    obtain ⟨payload, opens, rfl⟩ := Option.map_eq_some_iff.mp found
    exact ⟨passed, identity, others, payload, same, by simpa using earlier, opens, rfl⟩
  · rintro ⟨passed, identity, others, payload, same, earlier, opens, rfl⟩
    exact ⟨passed, identity, others, same, by simp [opens], by simpa using earlier⟩

private theorem openWith?_eq_none {identities : List Identity} :
    openWith? identities blob = none ↔ ∀ identity ∈ identities, identity.open? blob = none := by
  simp [openWith?]

end Primitives

/-- A payload that is sealed under any spelling of the identifier of an identity is opened by the
identity, provided that the fresh key pair agrees with it.

An identity opens just the blobs that have the layout of a sealed box for it, of whatever length
they are, and the standard building blocks open a blob with the first identity that can. -/
theorem SealedBox.opens_exactly :
    (∀ (identity fresh : Identity) (nonce payload : Bytes) (spelling : String),
      identity.AgreesWith fresh → nonce.length = 24 →
      Recipient.Spelling identity.recipientId spelling →
      ∀ {σ : Type} (entropy : Entropy σ) (before between after : σ),
        entropy.draw 32 before = (.ok fresh.secret, between) →
        entropy.draw 24 between = (.ok nonce, after) →
        ∃ blob, (sealFor entropy payload spelling).Returns before blob after ∧
          blob.length = payload.length + 72 ∧ identity.open? blob = some payload) ∧
    (∀ (identity : Identity) (blob : Bytes),
      (∀ payload, identity.open? blob = some payload ↔
        ∃ other nonce, other.length = 32 ∧ nonce.length = 24 ∧
          blob = other ++ nonce ++
            Cipher.SecretBox.close (identity.sharedKey other) nonce payload) ∧
      (identity.open? blob = none ↔
        ∀ payload other nonce, other.length = 32 → nonce.length = 24 →
          blob ≠ other ++ nonce ++
            Cipher.SecretBox.close (identity.sharedKey other) nonce payload)) ∧
    ∀ {σ : Type} (entropy : Entropy σ) (cost : DerivationCost) (identities : List Identity)
      (blob : Bytes) (state : σ),
      let unwrap := (Primitives.standard entropy cost identities).asymmetricUnwrap blob
      (∀ opened, unwrap.Returns state opened state ↔
        ∃ passed identity others payload, identities = passed ++ identity :: others ∧
          (∀ earlier ∈ passed, earlier.open? blob = none) ∧
          identity.open? blob = some payload ∧ opened = ⟨payload, identity.recipientId⟩) ∧
      (unwrap.Stops state (.failed Primitives.noIdentity) state ↔
        ∀ identity ∈ identities, identity.open? blob = none) := by
  refine ⟨?_, ?_, ?_⟩
  · intro identity fresh nonce payload spelling agrees sized spelled σ entropy before between after
      secretDrawn nonceDrawn
    have parsed : Recipient.parse spelling = .ok identity.publicKey :=
      Recipient.parse_of_spelling spelled
    exact ⟨_, returns_sealFor parsed secretDrawn nonceDrawn payload,
      length_sealWith sized identity.publicKey, Identity.open?_sealWith agrees sized payload⟩
  · intro identity blob
    refine ⟨fun payload => Identity.open?_eq_some, ?_⟩
    rw [Option.eq_none_iff_forall_ne_some]
    refine forall_congr' fun payload => ?_
    rw [Ne, Identity.open?_eq_some]
    simp only [not_exists, not_and, ne_eq]
  · intro σ entropy cost identities blob state unwrap
    refine ⟨fun opened => ?_, ?_⟩
    · rw [← Primitives.openWith?_eq_some]
      cases found : Primitives.openWith? identities blob <;>
        simp [unwrap, Primitives.standard, found]
    · rw [← Primitives.openWith?_eq_none]
      cases found : Primitives.openWith? identities blob with
      | some opened => simp [unwrap, Primitives.standard, found]
      | none =>
        simp only [unwrap, Primitives.standard, found]
        exact iff_of_true rfl trivial

/-- A payload is sealed for the identifier in capitals between white space, and opened. -/
theorem SealedBox.opens_exactly_capitals :
    let identity : Identity := ⟨Bytes.zeros 32, rfl⟩
    let fresh : Identity := ⟨8 :: Bytes.zeros 31, rfl⟩
    let spelling := "\u3000 2FE57DA347CD62431528DAAC5FBB290730FFF684AFC4CFC2ED90995F58CB3B74\n"
    ∃ blob, (sealFor Entropy.stored [1, 2, 3] spelling).Returns
        (fresh.secret ++ Bytes.zeros 24) blob [] ∧
      blob.length = 75 ∧ identity.open? blob = some [1, 2, 3] := by
  intro identity fresh spelling
  have agrees : identity.AgreesWith fresh := by
    unfold Identity.AgreesWith
    decide +kernel
  have spelled : Recipient.Spelling identity.recipientId spelling := by
    have around : spelling = "\u3000 " ++
        "2FE57DA347CD62431528DAAC5FBB290730FFF684AFC4CFC2ED90995F58CB3B74" ++ "\n" := rfl
    rw [around]
    exact .spelled (List.all_eq_true.mp rfl) (by decide +kernel) (List.all_eq_true.mp rfl)
  exact opens_exactly.1 identity fresh (Bytes.zeros 24) [1, 2, 3] spelling agrees (by decide)
    spelled Entropy.stored _ (Bytes.zeros 24) [] (by rfl) (by rfl)

end Keywarden
