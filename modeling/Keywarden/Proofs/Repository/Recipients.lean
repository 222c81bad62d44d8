import Keywarden.Proofs.Identity.SealedBox
import Keywarden.Proofs.WellFormed

/-!
# One entry for each public key

The list of factors compares identifiers as texts, up to letter case; sealing trims them
before it reads a public key.  Between the two a public key gets a second entry exactly
when its identifier comes with other white space around it.
-/

namespace Keywarden

open Keywarden.Action Edit Repository

variable {σ : Type}

namespace InfoFile

/-- Where no two recipients are the same up to letter case, asymmetric entries at two positions
have identifiers that differ in more than that. -/
theorem equalFold_eq_false_of_distinct {info : InfoFile}
    (distinct : info.recipients.Pairwise fun left right => Text.equalFold left right = false)
    {i j : Nat} (apart : i ≠ j) {left right : AsymmetricEntry}
    (leftStored : info.keys[i]? = some (.asymmetric left))
    (rightStored : info.keys[j]? = some (.asymmetric right)) :
    Text.equalFold left.recipientId right.recipientId = false := by
  rw [recipients, asymmetrics, List.pairwise_map, List.pairwise_filterMap,
    List.pairwise_iff_getElem] at distinct
  obtain ⟨iBound, leftAt⟩ := List.getElem?_eq_some_iff.mp leftStored
  obtain ⟨jBound, rightAt⟩ := List.getElem?_eq_some_iff.mp rightStored
  rcases Nat.lt_or_gt_of_ne apart with before | after
  · exact distinct i j iBound jBound before left (by rw [leftAt]; rfl) right
      (by rw [rightAt]; rfl)
  · rw [Text.equalFold_comm]
    exact distinct j i jBound iBound after right (by rw [rightAt]; rfl) left
      (by rw [leftAt]; rfl)

/-- What a repository's file is after its creation and any history. -/
theorem orderly_of_history {ι : Type} {blocks : ι → Primitives σ} {setting : ι}
    {first : FactorSpec} {source : PassphraseSource σ} {host final : σ} {masterKey : MasterKey}
    {info : InfoFile}
    (created : (create first (blocks setting) source).Returns host (masterKey, info) final)
    (moves : List (Move ι σ)) : (historyEnd blocks moves info).Orderly := by
  obtain ⟨keyed, entry, -, added, rfl⟩ := of_returns_create created
  have wellFormed := added.wellFormed orderly_empty
  exact (historyEnd_induction (fun move info => (move.step blocks info).wellFormed) moves
    wellFormed).toOrderly

end InfoFile

namespace Repository

/-- With the standard building blocks, two entries of a repository for one public key have
identifiers that differ in the white space around them.  A key that has an entry without
such white space is refused in every spelling without it. -/
theorem recipients_once (entropy : Entropy σ) :
    let blocks := fun setting : DerivationCost × List Identity =>
      Primitives.standard entropy setting.1 setting.2
    ∀ (setting : DerivationCost × List Identity) (first : FactorSpec)
      (source : PassphraseSource σ) (host final : σ) (masterKey : MasterKey) (info : InfoFile),
      (create first (blocks setting) source).Returns host (masterKey, info) final →
      ∀ moves : List (Move (DerivationCost × List Identity) σ),
        let reached := historyEnd blocks moves info
        (∀ (i j : Nat) (left right : AsymmetricEntry) (key : PublicKey), i ≠ j →
          reached.keys[i]? = some (.asymmetric left) →
          reached.keys[j]? = some (.asymmetric right) →
          Recipient.parse left.recipientId = .ok key →
          Recipient.parse right.recipientId = .ok key →
          Text.equalFold left.recipientId right.recipientId = false ∧
            Text.equalFold (Text.trim left.recipientId) (Text.trim right.recipientId) = true) ∧
        ∀ (entry : AsymmetricEntry) (id : String) (key : PublicKey),
          .asymmetric entry ∈ reached.keys → Recipient.parse entry.recipientId = .ok key →
          Recipient.parse id = .ok key →
          Text.trim entry.recipientId = entry.recipientId → Text.trim id = id →
          ∀ (setting : DerivationCost × List Identity) (source : PassphraseSource σ)
            (masterKey : MasterKey) (host : σ),
            (addFactor masterKey (.recipient id) (blocks setting) source).Stops
              ⟨reached, host⟩ (.failed InfoFile.duplicateRecipient) ⟨reached, host⟩ := by
  intro blocks setting first source host final masterKey info created moves reached
  have orderly : reached.Orderly := InfoFile.orderly_of_history created moves
  constructor
  · intro i j left right key apart leftStored rightStored leftParsed rightParsed
    exact ⟨InfoFile.equalFold_eq_false_of_distinct orderly.distinct apart leftStored rightStored,
      Recipient.equalFold_trim_of_parse leftParsed rightParsed⟩
  · intro entry id key member entryParsed parsed entryBare bare setting source masterKey host
    have same := Recipient.equalFold_trim_of_parse entryParsed parsed
    rw [entryBare, bare] at same
    exact stops_addFactor_known (InfoFile.hasRecipient_iff.mpr ⟨entry, member, same⟩)

end Repository

/-! ### A public key that is added twice -/

/-- Random bytes that are always served and always zero. -/
def Entropy.zeros : Entropy Unit where
  draw count _ := (.ok (Bytes.zeros count), ())

theorem SealedBox.sealWith_ne_nil (fresh : Identity) (nonce : Bytes) (recipient : PublicKey)
    (payload : Bytes) : sealWith fresh nonce recipient payload ≠ [] := by
  intro nothing
  have length := congrArg List.length nothing
  simp [sealWith, fresh.publicKey.length_eq] at length

/-- Sealing for an identifier that is read succeeds while random bytes are served. -/
theorem returns_sealFor_zeros {id : String} {key : PublicKey}
    (parsed : Recipient.parse id = .ok key) (payload : Bytes) :
    ∃ blob, (SealedBox.sealFor Entropy.zeros payload id).Returns () blob () ∧ blob ≠ [] := by
  let fresh : Identity := ⟨Bytes.zeros 32, rfl⟩
  have made : (SealedBox.sealFor Entropy.zeros payload id).Returns ()
      (SealedBox.sealWith fresh (Bytes.zeros 24) key payload) () :=
    SealedBox.returns_sealFor parsed rfl rfl payload
  exact ⟨_, made, SealedBox.sealWith_ne_nil fresh (Bytes.zeros 24) key payload⟩

namespace Repository

/-- The standard building blocks over random bytes that are all zero. -/
def zeroBlocks (setting : DerivationCost × List Identity) : Primitives Unit :=
  Primitives.standard Entropy.zeros setting.1 setting.2

/-- An identifier that is read and that no entry names is added. -/
theorem returns_addFactor_zeros {info : InfoFile} {id : String} {key : PublicKey}
    (parsed : Recipient.parse id = .ok key) (named : id ≠ "")
    (unknown : info.hasRecipient id = false) (masterKey : MasterKey)
    (setting : DerivationCost × List Identity) (source : PassphraseSource Unit) :
    ∃ blob, (addFactor masterKey (.recipient id) (zeroBlocks setting) source).Returns
      ⟨info, ()⟩ () ⟨info.append (.asymmetric ⟨id, blob⟩), ()⟩ := by
  obtain ⟨blob, wrapped, nonempty⟩ := returns_sealFor_zeros parsed masterKey.bytes
  exact ⟨blob, returns_addFactor_recipient unknown ⟨named, nonempty⟩ wrapped⟩

def lettered : PublicKey :=
  ⟨List.replicate 32 0xab, rfl⟩

/-- The identifier of the same public key in capital letters. -/
def capitals : String :=
  String.ofList (lettered.recipientId.toList.map Char.toUpper)

/-- The identifier of the same public key after a space. -/
def spaced : String :=
  " " ++ lettered.recipientId

theorem parse_spellings :
    Recipient.parse lettered.recipientId = .ok lettered ∧
      Recipient.parse capitals = .ok lettered ∧ Recipient.parse spaced = .ok lettered := by
  decide +kernel

def addSpaced (masterKey : MasterKey) : Move (DerivationCost × List Identity) Unit :=
  ⟨(.standard, []), .addFactor masterKey (.recipient spaced) (.stored none), ()⟩

/-- A repository that is created for a recipient takes the same recipient once more, after
a space. -/
theorem history_spaced :
    ∃ (masterKey : MasterKey) (info : InfoFile) (first second : Bytes),
      (create (.recipient lettered.recipientId) (zeroBlocks (.standard, [])) (.stored none)).Returns
        () (masterKey, info) () ∧
      (historyEnd zeroBlocks [addSpaced masterKey] info).keys =
        [.asymmetric ⟨lettered.recipientId, first⟩, .asymmetric ⟨spaced, second⟩] := by
  obtain ⟨plainParsed, -, spacedParsed⟩ := parse_spellings
  have emptyUnknown : InfoFile.empty.hasRecipient lettered.recipientId = false := rfl
  obtain ⟨first, added⟩ := returns_addFactor_zeros plainParsed (by decide +kernel) emptyUnknown
    ⟨Bytes.zeros 32, rfl⟩ (.standard, []) (.stored none)
  have spacedUnknown : (InfoFile.empty.append
      (.asymmetric ⟨lettered.recipientId, first⟩)).hasRecipient spaced = false := by
    have differ : Text.equalFold lettered.recipientId spaced = false := by decide +kernel
    simp [InfoFile.hasRecipient, InfoFile.append, InfoFile.empty, KeyEntry.isRecipient, differ]
  obtain ⟨second, addedAgain⟩ := returns_addFactor_zeros spacedParsed (by decide +kernel)
    spacedUnknown ⟨Bytes.zeros 32, rfl⟩ (.standard, []) (.stored none)
  refine ⟨_, _, first, second, returns_create.mpr ⟨(), rfl, added⟩, ?_⟩
  have performed : (Operation.perform (zeroBlocks (.standard, []))
      (.addFactor ⟨Bytes.zeros 32, rfl⟩ (.recipient spaced) (.stored none))).Returns
        ⟨InfoFile.empty.append (.asymmetric ⟨lettered.recipientId, first⟩), ()⟩ .added _ :=
    returns_bind.mpr ⟨_, _, addedAgain, returns_pure.mpr ⟨rfl, rfl⟩⟩
  exact congrArg (fun outcome => outcome.2.info.keys) performed

/-- The key of the recipient then has two entries. -/
theorem recipient_added_twice :
    ∃ (masterKey : MasterKey) (info : InfoFile) (left right : AsymmetricEntry),
      (create (.recipient lettered.recipientId) (zeroBlocks (.standard, [])) (.stored none)).Returns
        () (masterKey, info) () ∧
      (historyEnd zeroBlocks [addSpaced masterKey] info).keys =
        [.asymmetric left, .asymmetric right] ∧
      Recipient.parse left.recipientId = .ok lettered ∧
      Recipient.parse right.recipientId = .ok lettered := by
  obtain ⟨masterKey, info, first, second, created, keys⟩ := history_spaced
  exact ⟨masterKey, info, _, _, created, keys, parse_spellings.1, parse_spellings.2.2⟩

/-- The two entries differ in the space alone, and in capital letters the recipient is
refused. -/
theorem capitals_refused :
    ∃ (masterKey : MasterKey) (info : InfoFile),
      (create (.recipient lettered.recipientId) (zeroBlocks (.standard, [])) (.stored none)).Returns
        () (masterKey, info) () ∧
      let reached := historyEnd zeroBlocks [addSpaced masterKey] info
      Text.equalFold (Text.trim lettered.recipientId) (Text.trim spaced) = true ∧
      (addFactor masterKey (.recipient capitals) (zeroBlocks (.standard, [])) (.stored none)).Stops
        ⟨reached, ()⟩ (.failed InfoFile.duplicateRecipient) ⟨reached, ()⟩ := by
  obtain ⟨masterKey, info, first, second, created, keys⟩ := history_spaced
  obtain ⟨plainParsed, capitalsParsed, spacedParsed⟩ := parse_spellings
  have once := recipients_once Entropy.zeros (.standard, []) _ _ _ _ _ _ created
    [addSpaced masterKey]
  have bare : Text.trim lettered.recipientId = lettered.recipientId := by decide +kernel
  have capitalsBare : Text.trim capitals = capitals := by decide +kernel
  have firstStored := congrArg (fun entries => entries[0]?) keys
  have secondStored := congrArg (fun entries => entries[1]?) keys
  have differ := once.1 0 1 _ _ lettered (by decide) firstStored secondStored plainParsed
    spacedParsed
  have refused := once.2 _ capitals lettered (List.mem_of_getElem? firstStored) plainParsed
    capitalsParsed bare capitalsBare (.standard, []) (.stored none) masterKey ()
  exact ⟨masterKey, info, created, differ.2, refused⟩

end Repository

end Keywarden
