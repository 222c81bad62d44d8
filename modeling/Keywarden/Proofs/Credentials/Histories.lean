import Keywarden.Proofs.Credentials
import Keywarden.Proofs.Transparent

/-!
# Unlocking after a history

The list of live credentials is kept beside the history of a repository: adding a
factor appends what it was added with, removing one deletes at the same position, and
moving the legacy passphrase appends it.  After every history a passphrase unlocks
exactly when it is in the list, through the factor at its position, to the one master
key; any other passphrase is refused.
-/

namespace Keywarden

open Keywarden.Action Repository Unlocking

variable {ι σ : Type} {blocks : ι → Primitives σ} {masterKey : MasterKey}
  {derive : Derivation} {setting : ι} {before : Session σ} {live : Credentials}

namespace Credentials

/-- The credentials after one more was added. -/
def add (live : Credentials) (credential? : Option Credential) : Credentials :=
  { live with entries := live.entries ++ credential?.toList }

def after (live : Credentials) (info : InfoFile) (host : σ) :
    Operation σ → Except Stop Answer → Credentials
  | .addFactor _ factor source, .ok _ => live.add (Credential.given? source host factor)
  | .removeFactor target, .ok _ =>
    match position? info.keys target with
    | some index => { live with entries := live.entries.eraseIdx index }
    | none => live
  | .upgrade _, .ok (.upgraded report) =>
    if report.rotatedPassphrase then
      ⟨live.entries ++ (live.legacy.map Credential.passphrase).toList, none⟩
    else live
  | _, _ => live

end Credentials

def historyCredentials (blocks : ι → Primitives σ) :
    List (Move ι σ) → InfoFile → Credentials → Credentials
  | [], _, live => live
  | move :: rest, info, live =>
    historyCredentials blocks rest (move.after blocks info)
      (live.after info move.host move.operation (move.answer blocks info))

def KeyEntry.NamedBy : KeyEntry → Credential → Prop
  | .passphrase _, .passphrase _ => True
  | .asymmetric entry, .recipient id => entry.recipientId = id
  | _, _ => False

private theorem forall₂_eraseIdx {α β : Type} {R : α → β → Prop} {left : List α} {right : List β}
    (related : List.Forall₂ R left right) (index : Nat) :
    List.Forall₂ R (left.eraseIdx index) (right.eraseIdx index) := by
  induction related generalizing index with
  | nil => exact .nil
  | cons head tail ih =>
    cases index with
    | zero => exact tail
    | succ index => exact .cons head (ih index)

/-- A passphrase that is refused as unknown is not live. -/
theorem not_live_of_refused (lawful : Primitives.Lawful blocks derive) {info : InfoFile}
    (fit : live.Fit blocks derive masterKey info) {text context : String} {host final : σ}
    (refused : (withPassphrase info text (blocks setting)).Stops host
      (.failed (.invalidCredentials context)) final) :
    text ∉ live.passphrases := by
  rcases withPassphrase_answers lawful fit setting text with
    ⟨salt, cost, stop, -, fails, answers⟩ | answers
  · cases answers.eq_of_stops refused
    cases lawful.failure_kind fails
  · exact Credentials.not_mem_of_unlock_eq_error (answers.eq_of_stops refused)

theorem Repository.Wraps.fits (lawful : Primitives.Lawful blocks derive) {text : String}
    {entry : PassphraseEntry}
    (wraps : Wraps (blocks setting) masterKey (Bytes.ofString text) entry) :
    KeyEntry.Fits blocks derive masterKey (.passphrase entry) (.passphrase text) := by
  obtain ⟨key, hash, derived, met, wrapped⟩ := wraps.wrapped
  exact ⟨key, hash, (lawful.derives _ _ _ _).eq_of_yields derived, met,
    fun read => lawful.unwrap_wrap wrapped⟩

namespace Credentials

private theorem passphrases_add_recipient (live : Credentials) (id : String) :
    (live.add (some (.recipient id))).passphrases = live.passphrases := by
  simp [passphrases, add, Credential.passphrase?]

private theorem passphrases_add_passphrase (live : Credentials) (text : String) :
    (live.add (some (.passphrase text))).passphrases.Perm (text :: live.passphrases) := by
  simp [passphrases, add, Credential.passphrase?]

/-- Moving the legacy passphrase to the entries keeps the live passphrases. -/
theorem passphrases_moved (entries : List Credential) (text : String) :
    passphrases ⟨entries ++ [.passphrase text], none⟩ = passphrases ⟨entries, some text⟩ := by
  simp [passphrases, Credential.passphrase?]

theorem Fit.append {info : InfoFile} (fit : live.Fit blocks derive masterKey info)
    {entry : KeyEntry} {credential : Credential}
    (fits : entry.Fits blocks derive masterKey credential)
    (nodup : (live.add (some credential)).passphrases.Nodup) :
    (live.add (some credential)).Fit blocks derive masterKey (info.append entry) where
  entries := List.rel_append fit.entries (.cons fits .nil)
  legacy := fit.legacy
  nodup := nodup

theorem Fit.eraseIdx {info : InfoFile} (fit : live.Fit blocks derive masterKey info)
    (index : Nat) :
    Fit blocks derive masterKey { info with keys := info.keys.eraseIdx index }
      { live with entries := live.entries.eraseIdx index } where
  entries := forall₂_eraseIdx fit.entries index
  legacy := fit.legacy
  nodup := fit.nodup.sublist
    (((List.eraseIdx_sublist live.entries index).filterMap _).append_right _)

end Credentials

theorem Repository.Added.fit (lawful : Primitives.Lawful blocks derive)
    {source : PassphraseSource σ} {factor : FactorSpec} {entry : KeyEntry}
    (added : Added (blocks setting) source masterKey before factor entry)
    (fit : live.Fit blocks derive masterKey before.info) :
    (live.add (Credential.given? source before.host factor)).Fit blocks derive masterKey
      (before.info.append entry) := by
  cases added with
  | recipient unknown complete made =>
    refine fit.append rfl ?_
    rw [Credentials.passphrases_add_recipient]
    exact fit.nodup
  | @passphrase text context host final entry acquired refused made =>
    have given : Credential.given? source before.host .passphrase =
        some (.passphrase text) := by
      simp only [Credential.given?]
      rw [acquired]
    rw [given]
    refine fit.append (made.fits lawful) ?_
    rw [(Credentials.passphrases_add_passphrase live text).nodup_iff, List.nodup_cons]
    exact ⟨not_live_of_refused lawful fit refused, fit.nodup⟩

/-- Whoever migrates the legacy passphrase has given that passphrase, and has unlocked
the master key. -/
theorem Credentials.Fit.eq_of_derives (lawful : Primitives.Lawful blocks derive)
    {info : InfoFile} (fit : live.Fit blocks derive masterKey info)
    {legacy : LegacyPassphrase} {text : String} {found : MasterKey}
    (stored : info.legacyPassphrase? = some legacy)
    (derived : Derives (blocks setting) (Bytes.ofString text) legacy found) :
    live.legacy = some text ∧ found = masterKey := by
  obtain ⟨key, hash, yields, met, rfl⟩ := derived
  have derived := (lawful.derives _ _ _ _).eq_of_yields yields
  have legacyFit := fit.legacy
  rw [stored] at legacyFit
  cases known : live.legacy with
  | none =>
    rw [known] at legacyFit
    cases legacyFit
  | some other =>
    rw [known] at legacyFit
    cases legacyFit with
    | some fits =>
      obtain ⟨otherKey, otherHash, otherDerived, otherMet, rfl⟩ := fits
      obtain rfl := lawful.eq_of_met derived otherDerived (met.trans otherMet.symm)
      cases derived.symm.trans otherDerived
      exact ⟨rfl, rfl⟩

theorem Operation.Step.fit (lawful : Primitives.Lawful blocks derive)
    {operation : Operation σ} {answer : Except Stop Answer} {edited : InfoFile}
    (step : Step (blocks setting) before operation answer edited)
    (own : ∀ key, operation.addedKey? = some key → key = masterKey)
    (fit : live.Fit blocks derive masterKey before.info) :
    (live.after before.info before.host operation answer).Fit blocks derive masterKey
      edited := by
  cases step with
  | stopped => cases operation <;> exact fit
  | added added =>
    obtain rfl := own _ rfl
    exact added.fit lawful fit
  | removed located stored several =>
    simp only [Credentials.after, located]
    exact fit.eraseIdx _
  | upgraded upgraded =>
    cases upgraded with
    | unchanged => exact fit
    | renumbered => exact ⟨fit.entries, fit.legacy, fit.nodup⟩
    | rotated oldest present moved =>
      cases moved with
      | moved stored acquired derived wraps =>
        obtain ⟨known, rfl⟩ := fit.eq_of_derives lawful stored derived
        simp only [Credentials.after, if_true, known, Option.map_some, Option.toList_some]
        refine ⟨List.rel_append fit.entries (.cons (wraps.fits lawful) .nil), .none, ?_⟩
        rw [Credentials.passphrases_moved, ← known]
        exact fit.nodup
  | unlocked => exact fit
  | unlockedWith => exact fit

theorem Begins.fit (lawful : Primitives.Lawful blocks derive) {info : InfoFile}
    (begins : Begins blocks masterKey info live) :
    live.Fit blocks derive masterKey info := by
  cases begins with
  | created created =>
    obtain ⟨keyed, entry, generated, added, rfl⟩ := of_returns_create created
    have empty : Credentials.Fit blocks derive masterKey InfoFile.empty ⟨[], none⟩ :=
      ⟨.nil, .none, List.nodup_nil⟩
    rw [generated]
    exact added.fit lawful empty
  | @legacy setting text _ legacy oldest noEntries stored derived =>
    obtain ⟨key, hash, yields, met, rfl⟩ := derived
    refine ⟨?_, ?_, List.pairwise_singleton _ text⟩
    · rw [noEntries]
      exact .nil
    · rw [stored]
      exact .some ⟨key, hash, (lawful.derives _ _ _ _).eq_of_yields yields, met, rfl⟩

private theorem historyEnd_fit (lawful : Primitives.Lawful blocks derive) (moves : List (Move ι σ))
    {info : InfoFile} (own : ∀ move ∈ moves, ∀ key,
      move.operation.addedKey? = some key → key = masterKey)
    (fit : live.Fit blocks derive masterKey info) :
    (historyCredentials blocks moves info live).Fit blocks derive masterKey
      (historyEnd blocks moves info) := by
  induction moves generalizing info live with
  | nil => exact fit
  | cons move rest ih =>
    exact ih (fun other member => own other (by simp [member]))
      ((move.step blocks info).fit lawful (own move (by simp)) fit)

theorem KeyEntry.Fits.namedBy {entry : KeyEntry} {credential : Credential}
    (fits : entry.Fits blocks derive masterKey credential) : entry.NamedBy credential := by
  cases entry with
  | passphrase entry =>
    cases credential with
    | passphrase text => trivial
    | recipient id => cases fits
  | asymmetric entry =>
    cases credential with
    | passphrase text => cases fits
    | recipient id => exact fits

theorem Credentials.Fit.isSome_legacy {info : InfoFile}
    (fit : live.Fit blocks derive masterKey info) :
    live.legacy.isSome = info.hasLegacyPassphrase := by
  have related := fit.legacy
  unfold InfoFile.hasLegacyPassphrase
  generalize info.legacyPassphrase? = stored?, live.legacy = live? at related
  cases related with
  | some fits => rfl
  | none => rfl

/-- Suppose that no derivation with a recorded salt and cost fails.  Then after every
history the passphrase at a position of the live credentials unlocks the one master
key through the entry at that position, the passphrase kept apart unlocks it as the
legacy one, and every other passphrase is refused. -/
theorem unlock_live_credentials (lawful : Primitives.Lawful blocks derive)
    {info : InfoFile} (begins : Begins blocks masterKey info live)
    (moves : List (Move ι σ))
    (own : ∀ move ∈ moves, ∀ key, move.operation.addedKey? = some key → key = masterKey)
    (usable : ∀ passphrase salt cost, (historyEnd blocks moves info).Records salt cost →
      ∃ derived, derive (Bytes.ofString passphrase) salt cost = .ok derived) :
    let reached := historyEnd blocks moves info
    let credentials := historyCredentials blocks moves info live
    List.Forall₂ KeyEntry.NamedBy reached.keys credentials.entries ∧
      credentials.legacy.isSome = reached.hasLegacyPassphrase ∧
      credentials.passphrases.Nodup ∧
      ∀ passphrase setting,
        let unlocking := withPassphrase reached passphrase (blocks setting)
        (∀ index, credentials.entries[index]? = some (.passphrase passphrase) →
          unlocking.Answers (.ok ⟨masterKey, .passphrase index⟩)) ∧
        (credentials.legacy = some passphrase →
          unlocking.Answers (.ok ⟨masterKey, .legacy⟩)) ∧
        (passphrase ∉ credentials.passphrases →
          unlocking.Answers (.error (.failed noMatch))) := by
  intro reached credentials
  have fit : credentials.Fit blocks derive masterKey reached :=
    historyEnd_fit lawful moves own (begins.fit lawful)
  refine ⟨fit.entries.imp fun _ _ fits => fits.namedBy, fit.isSome_legacy, fit.nodup, ?_⟩
  intro passphrase setting unlocking
  have answers : unlocking.Answers (credentials.unlock masterKey passphrase) := by
    rcases withPassphrase_answers lawful fit setting passphrase with
      ⟨salt, cost, stop, recorded, fails, -⟩ | answers
    · obtain ⟨derived, succeeds⟩ := usable passphrase salt cost recorded
      cases succeeds.symm.trans fails
    · exact answers
  refine ⟨fun index stored => ?_, fun legacy => ?_, fun absent => ?_⟩
  · rw [← Credentials.unlock_of_getElem? fit.nodup stored]
    exact answers
  · rw [← Credentials.unlock_of_legacy fit.nodup legacy]
    exact answers
  · rw [← Credentials.unlock_of_not_mem absent]
    exact answers

theorem Transparent.lawful :
    Primitives.Lawful Transparent.blocks
      fun passphrase salt _ => .ok (Transparent.derive passphrase salt) where
  derives _ _ _ _ := answers_pure _
  injective := by
    intro left right salt cost leftKey rightKey hash first second
    have same := Transparent.derive_injective ((congrArg Prod.snd (Except.ok.inj first)).trans
      (congrArg Prod.snd (Except.ok.inj second)).symm)
    have read := congrArg Bytes.text? same
    rw [Bytes.text?_ofString, Bytes.text?_ofString] at read
    exact Option.some.inj read
  unwrap_wrap := by
    rintro made read key payload blob ⟨_, _, wrapped⟩
    obtain ⟨rfl, -⟩ := returns_pure.mp wrapped
    simp only [Transparent.blocks, Transparent.unwrap?_wrap]
    exact answers_pure payload
  failure_kind := by
    intro passphrase salt cost failure failed
    cases failed

/-- After the migration of an old file the backup passphrase, which moved up when the
first one was removed, unlocks the old key, and the first one is refused. -/
theorem unlock_migrated_credentials :
    let migrated := historyEnd Transparent.blocks (Transparent.migration "old" "backup")
      (Transparent.oldFile "old")
    (withPassphrase migrated "backup" (Transparent.blocks ⟨.standard, []⟩)).Answers
      (.ok ⟨Transparent.oldKey "old", .passphrase 1⟩) ∧
    (withPassphrase migrated "old" (Transparent.blocks ⟨.standard, []⟩)).Answers
      (.error (.failed noMatch)) := by
  have own : ∀ move ∈ Transparent.migration "old" "backup", ∀ key,
      move.operation.addedKey? = some key → key = Transparent.oldKey "old" := by
    simp [Transparent.migration, Operation.addedKey?, eq_comm]
  obtain ⟨-, -, -, unlocks⟩ := unlock_live_credentials Transparent.lawful
    (Transparent.begins_oldFile "old") (Transparent.migration "old" "backup") own
    fun _ _ _ _ => ⟨_, rfl⟩
  exact ⟨(unlocks "backup" _).1 1 rfl, (unlocks "old" _).2.2 (by decide)⟩

end Keywarden
