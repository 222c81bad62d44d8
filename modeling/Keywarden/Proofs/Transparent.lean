import Keywarden.Proofs.History

/-!
# Building blocks that hide nothing

A family of building blocks without any cryptography, whose laws hold exactly.  A
confirmation hash is the salt and the passphrase side by side, a wrapped payload
shows the wrapping key before the payload, and a sealed payload shows its
recipient before it.

With them the histories of a repository can be run.  The one that is given here
begins with a file of version 1 and moves it forward among other operations.
-/

namespace Keywarden.Transparent

open Keywarden.Action

/-- What the transparent building blocks are configured with. -/
structure Setting where
  cost : DerivationCost
  /-- The recipients whose blobs can be opened. -/
  identities : List String

def derive (passphrase salt : Bytes) : WrappingKey × ConfirmationHash :=
  (⟨(passphrase ++ Bytes.zeros 32).take 32, by simp [Bytes.zeros]⟩, ⟨salt ++ passphrase⟩)

def wrap (key : WrappingKey) (payload : Bytes) : Bytes :=
  key.bytes ++ payload

def unwrap? (key : WrappingKey) (blob : Bytes) : Option Bytes :=
  if blob.take 32 = key.bytes then some (blob.drop 32) else none

/-- The head of a blob for a recipient: the length in ones, a zero, and the name. -/
def address (recipientId : String) : Bytes :=
  List.replicate (Bytes.ofString recipientId).length 1 ++ 0 :: Bytes.ofString recipientId

def close (payload : Bytes) (recipientId : String) : Bytes :=
  address recipientId ++ payload

/-- The payload of a blob for one of some recipients. -/
def open? (identities : List String) (blob : Bytes) : Option Opened :=
  identities.findSome? fun id =>
    if address id <+: blob then some ⟨blob.drop (address id).length, id⟩ else none

def refusal : Failure :=
  .primitive "Error unwrapping the master key" "not made for this key"

/-- The transparent building blocks; the state counts the salts that were made. -/
def blocks (setting : Setting) : Primitives Nat where
  generateMasterKey := pure ⟨List.replicate 32 7, List.length_replicate⟩
  generateSalt := fun made => (.ok (Bytes.ofNatLE 8 made), made + 1)
  cost _ := setting.cost
  deriveKey passphrase salt _ := pure (derive passphrase salt)
  wrap key payload := pure (wrap key payload)
  unwrap key blob :=
    match unwrap? key blob with
    | some payload => pure payload
    | none => fail refusal
  asymmetricWrap payload recipientId := pure (close payload recipientId)
  asymmetricUnwrap blob :=
    match open? setting.identities blob with
    | some opened => pure opened
    | none => fail refusal

/-- Passphrases with the same hash under a salt are the same. -/
theorem derive_injective {left right salt : Bytes}
    (same : (derive left salt).2 = (derive right salt).2) : left = right := by
  simpa [derive] using same

theorem unwrap?_wrap (key : WrappingKey) (payload : Bytes) :
    unwrap? key (wrap key payload) = some payload := by
  simp [unwrap?, wrap, ← key.length_eq]

/-- No other key opens a wrapped payload to anything else. -/
theorem eq_of_unwrap?_wrap {key other : WrappingKey} {payload found : Bytes}
    (unwrapped : unwrap? other (wrap key payload) = some found) : found = payload := by
  unfold unwrap? at unwrapped
  split at unwrapped
  · simpa [wrap, ← key.length_eq, eq_comm] using unwrapped
  · cases unwrapped

private theorem address_cancel {left right : Nat} {first second : Bytes}
    (same : List.replicate left (1 : UInt8) ++ 0 :: first =
      List.replicate right 1 ++ 0 :: second) : left = right ∧ first = second := by
  induction left generalizing right with
  | zero =>
    cases right with
    | zero => simpa using same
    | succ right => simp [List.replicate_succ] at same
  | succ left ih =>
    cases right with
    | zero => simp [List.replicate_succ] at same
    | succ right =>
      simp only [List.replicate_succ, List.cons_append, List.cons.injEq, true_and] at same
      obtain ⟨rfl, rest⟩ := ih same
      exact ⟨rfl, rest⟩

/-- The head of a sealed payload names one recipient only. -/
theorem address_unique {id other : String} {payload : Bytes}
    (addressed : address other <+: close payload id) : address other = address id := by
  obtain ⟨rest, same⟩ := addressed
  simp only [close, address, List.append_assoc, List.cons_append] at same
  obtain ⟨length_eq, names⟩ := address_cancel same
  have name_eq := (List.append_inj names length_eq).1
  simp [address, name_eq]

theorem eq_of_open?_close {identities : List String} {payload : Bytes} {id : String}
    {opened : Opened} (unsealed : open? identities (close payload id) = some opened) :
    opened.payload = payload := by
  obtain ⟨other, -, read⟩ := List.exists_of_findSome?_eq_some unsealed
  split at read
  · next addressed =>
    cases read
    simp [address_unique addressed, close]
  · cases read

/-- A file of version 1 with a legacy passphrase and no entries. -/
def oldFile (passphrase : String) : InfoFile :=
  ⟨InfoFile.appName, 1, [], some [1],
    some (derive (Bytes.ofString passphrase) [1]).2.bytes, none⟩

def oldKey (passphrase : String) : MasterKey :=
  (derive (Bytes.ofString passphrase) [1]).1.asMaster

theorem begins_oldFile (passphrase : String) :
    Begins blocks (oldKey passphrase) (oldFile passphrase) ⟨[], some passphrase⟩ := by
  have derived : Unlocking.Derives (blocks ⟨.standard, []⟩) (Bytes.ofString passphrase)
      ⟨[1], (derive (Bytes.ofString passphrase) [1]).2.bytes, .standard⟩
      (oldKey passphrase) := ⟨_, _, ⟨0, 0, rfl⟩, rfl, rfl⟩
  exact .legacy rfl rfl rfl derived

/-- A history of the old file.  A recipient is added, then the file is moved forward at
a lower cost, a second passphrase is added with the key that the recipient unlocked,
adding the first one again fails, and the first one is removed. -/
def migration (passphrase backup : String) : List (Move Setting Nat) :=
  let usual : Setting := ⟨.standard, ["ab12"]⟩
  let lower : Setting := ⟨⟨8192, 1, 1⟩, []⟩
  let key := oldKey passphrase
  [⟨usual, .addFactor key (.recipient "ab12") (.stored none), 0⟩,
    ⟨lower, .upgrade (.stored (some passphrase)), 0⟩,
    ⟨usual, .unlock (.stored none), 1⟩,
    ⟨usual, .addFactor key .passphrase (.stored (some backup)), 1⟩,
    ⟨usual, .addFactor key .passphrase (.stored (some passphrase)), 2⟩,
    ⟨lower, .removeFactor (.passphrase 1), 2⟩]

end Keywarden.Transparent
