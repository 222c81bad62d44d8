import Keywarden.Audit.Ledger
import Keywarden.Proofs.Audit.AppendOnly
import Keywarden.Proofs.Json.Document

/-!
# A ledger appends

A ledger is read back from its text as long as its numbers have 64 bits, and whoever adds records
alone finds them all there, in their order.
-/

namespace Keywarden.Audit.Ledger

open Json (Value)

/-! ### The text of a ledger -/

theorem number?_ofInt {number : Nat} (fits : number < UInt64.size) :
    number? (.ofInt number) = some number := by
  have natural : ¬ (number : Int) < 0 := by omega
  have asked : (Value.ofInt number).head = .ok (.number (.unsigned number)) :=
    Json.head_ofInt_natural fits natural
  rw [number?, asked]

theorem text?_ofText (text : String) : text? (.ofText text) = some text := by
  rw [text?, Json.head_ofText]

private theorem optionalText?_optionalText (text : Option String) :
    optionalText? (optionalText text) = some text := by
  cases text with
  | none => rfl
  | some text =>
    have read := congrArg (Option.map some) (text?_ofText text)
    exact read

private theorem legible_optionalText (text : Option String) : (optionalText text).Legible := by
  cases text with
  | none => exact .null
  | some text => exact .text text

/-- The number of the record can be read back. -/
def Countable (record : Record) : Prop :=
  ∃ number : Nat, record.number = number ∧ number < UInt64.size

private theorem record?_recordValue {record : Record} (countable : Countable record) :
    record? (recordValue record) = some record := by
  obtain ⟨number, same, fits⟩ := countable
  have read : number? (.ofInt record.number) = some number := by
    rw [same]
    exact number?_ofInt fits
  simp only [record?, recordValue, read, text?_ofText, optionalText?_optionalText, Option.bind_eq_bind,
    Option.bind_some, Option.pure_def, Int.ofNat_eq_natCast, ← same]

private theorem mapM_recordValue {records : List Record}
    (each : ∀ record ∈ records, Countable record) :
    (records.map recordValue).mapM record? = some records := by
  induction records with
  | nil => rfl
  | cons first rest ih =>
    have read := record?_recordValue (each first (by simp))
    have others := ih fun record member => each record (by simp [member])
    simp [List.mapM_cons, read, others]

private theorem legible_recordValue (record : Record) : (recordValue record).Legible := by
  apply Value.Legible.array
  simp [Json.legible_ofInt, Value.Legible.text, legible_optionalText]

private theorem legible (ledger : Ledger) : ledger.toValue.Legible := by
  have records : (Value.array (ledger.records.map recordValue)).Legible := by
    apply Value.Legible.array
    simp [legible_recordValue]
  apply Value.Legible.array
  simp [Json.legible_ofInt, Value.Legible.text, records]

private theorem decode?_encode {ledger : Ledger} (last : ledger.lastNumber < UInt64.size)
    (each : ∀ record ∈ ledger.records, Countable record) : decode? ledger.encode = some ledger := by
  have records := mapM_recordValue each
  rw [decode?, encode, Json.read?_pretty ledger.legible]
  simp [ofValue?, toValue, text?_ofText, number?_ofInt last, records]

/-! ### Ledgers in use -/

/-- The records have the numbers up to the last one, some of which may be left out. -/
structure Numbered (ledger : Ledger) : Prop where
  increasing : Record.Increasing ledger.records
  each : ∀ record ∈ ledger.records, ∃ number : Nat,
    record.number = number ∧ number ≤ ledger.lastNumber
  few : ledger.records.length ≤ ledger.lastNumber

theorem numbered_empty : empty.Numbered where
  increasing := .nil
  each := nofun
  few := Nat.le_refl 0

theorem Numbered.add {ledger : Ledger} (numbered : ledger.Numbered) (time : String) (event : Event) :
    (ledger.add time event).Numbered where
  increasing := by
    refine List.pairwise_append.mpr ⟨numbered.increasing, List.pairwise_singleton _ _, ?_⟩
    intro old member new last
    rw [List.mem_singleton.mp last]
    obtain ⟨number, same, below⟩ := numbered.each old member
    rw [same]
    exact Int.ofNat_lt.mpr (Nat.lt_succ_of_le below)
  each := by
    intro record member
    rcases List.mem_append.mp member with old | last
    · obtain ⟨number, same, below⟩ := numbered.each record old
      exact ⟨number, same, Nat.le_succ_of_le below⟩
    · exact ⟨ledger.lastNumber + 1, by rw [List.mem_singleton.mp last]; rfl, Nat.le_refl _⟩
  few := by
    have few := numbered.few
    simp only [Ledger.add, List.length_append, List.length_singleton]
    omega

theorem ofBytes_encode {ledger : Ledger} (numbered : ledger.Numbered)
    (fits : ledger.lastNumber < UInt64.size) : Content.ofBytes ledger.encode = .kept ledger := by
  have read : decode? ledger.encode = some ledger := by
    refine decode?_encode fits fun record member => ?_
    obtain ⟨number, same, below⟩ := numbered.each record member
    exact ⟨number, same, below.trans_lt fits⟩
  have nonempty : ledger.encode ≠ [] := by
    intro nothing
    rw [nothing] at read
    cases read
  rw [Content.ofBytes, if_neg (by simpa using nonempty), read]

/-- What stands in the place of the file of a ledger; one that is yet to be begun is empty. -/
inductive Stands (ledger : Ledger) : Stage → Standing → Prop
  | missing (new : ledger = empty) : Stands ledger .stored .nothing
  | unused {stage : Stage} {content : Bytes} (early : stage ≠ .begun)
      (unused : Content.ofBytes content = .unused) (new : ledger = empty) :
      Stands ledger stage (.file content)
  | kept {stage : Stage} {content : Bytes} (kept : Content.ofBytes content = .kept ledger) :
      Stands ledger stage (.file content)

theorem Stands.stored {ledger : Ledger} {stage : Stage} {standing : Standing}
    (stands : ledger.Stands stage standing) : ledger.Stands .stored standing := by
  cases stands with
  | missing new => exact .missing new
  | unused early unused new => exact .unused nofun unused new
  | kept kept => exact .kept kept

/-- The files keep the records in a ledger, which has numbers left. -/
structure Keeps (stage : Stage) (room : Nat) (records : List Record) (files : Files) : Prop where
  beside : ∀ part, files part ≠ .directory
  exists_ledger : ∃ ledger, Stands ledger stage (files .main) ∧ ledger.Numbered ∧
    ledger.lastNumber + room ≤ selectionLimit ∧ ledger.records = records

/-! ### Requests -/

section Requests

variable {room : Nat} {records : List Record} {files : Files}

theorem answers_get (files : Files) : Answers (get : Request Files) files files files :=
  rfl

theorem keeps_write {stage : Stage} {ledger : Ledger} {content : Bytes}
    (beside : ∀ part, files part ≠ .directory) (stands : ledger.Stands stage (.file content))
    (numbered : ledger.Numbered) (fits : ledger.lastNumber + room ≤ selectionLimit) :
    ∃ after, Answers (write content) files () after ∧ Keeps stage room ledger.records after := by
  refine ⟨fun part => if part = .main then .file content else files part, rfl, fun part => ?_,
    ledger, stands, numbered, fits, rfl⟩
  split
  · nofun
  · exact beside part

theorem answers_read {content : Bytes} (held : files .main = .file content) :
    Answers read files (.ofBytes content) files := by
  refine (answers_get files).bind ?_
  rw [held]
  rfl

private theorem isOpen_of_directories {way : List (Except FileFault Node)}
    (directories : ∀ place ∈ way, place = .ok .directory) : isOpen way = true := by
  have known : way.all isKnown = true := List.all_eq_true.mpr fun place member => by
    rw [directories place member]
    rfl
  rw [isOpen, known, Bool.true_and]
  cases last : way.getLast? with
  | none => rfl
  | some place => rw [directories place (List.mem_of_getLast? last)]

private theorem keeps_connect {path : String} {way : List (Except FileFault Node)}
    (admitted : admits path = true) (directories : ∀ place ∈ way, place = .ok .directory)
    (keeps : Keeps .stored room records files) :
    ∃ after, Answers (connect path way) files () after ∧ Keeps .connected room records after := by
  obtain ⟨beside, ledger, stands, numbered, fits, rfl⟩ := keeps
  have opened : connect path way = touch := by
    rw [connect, admitted, isOpen_of_directories directories]
    rfl
  rw [opened]
  cases held : files .main with
  | nothing =>
    rw [held] at stands
    obtain rfl : ledger = empty := by
      cases stands
      assumption
    have unused : empty.Stands .connected (.file []) := .unused nofun rfl rfl
    obtain ⟨after, written, left⟩ := keeps_write beside unused numbered fits
    refine ⟨after, (answers_get files).bind ?_, left⟩
    rw [held]
    exact written
  | directory => exact absurd held (beside .main)
  | file content =>
    rw [held] at stands
    have connected : ledger.Stands .connected (files .main) := by
      rw [held]
      cases stands with
      | unused early unused new => exact .unused nofun unused new
      | kept kept => exact .kept kept
    refine ⟨files, (answers_get files).bind ?_, beside, ledger, connected, numbered, fits, rfl⟩
    rw [held]
    rfl

private theorem fits_of_room {ledger : Ledger} (fits : ledger.lastNumber + room ≤ selectionLimit) :
    ledger.lastNumber < UInt64.size := by
  have limit : selectionLimit < UInt64.size := by decide
  omega

private theorem keeps_createTable (keeps : Keeps .connected room records files) :
    ∃ after, Answers createTable files () after ∧ Keeps .begun room records after := by
  obtain ⟨beside, ledger, stands, numbered, fits, rfl⟩ := keeps
  cases held : files .main with
  | nothing =>
    rw [held] at stands
    cases stands
  | directory => exact absurd held (beside .main)
  | file content =>
    rw [held] at stands
    cases stands with
    | unused early unused new =>
      subst new
      have begun : empty.Stands .begun (.file empty.encode) :=
        .kept (ofBytes_encode numbered_empty (by decide))
      obtain ⟨after, written, left⟩ := keeps_write beside begun numbered fits
      refine ⟨after, (answers_read held).bind ?_, left⟩
      rw [unused]
      exact written
    | kept kept =>
      have begun : ledger.Stands .begun (files .main) := by
        rw [held]
        exact .kept kept
      refine ⟨files, (answers_read held).bind ?_, beside, ledger, begun, numbered, fits, rfl⟩
      rw [kept]
      rfl

/-- A ledger that was begun is found again. -/
theorem answers_current {ledger : Ledger} (stands : ledger.Stands .begun (files .main)) :
    Answers current files ledger files := by
  cases held : files .main with
  | nothing =>
    rw [held] at stands
    cases stands
  | directory =>
    rw [held] at stands
    cases stands
  | file content =>
    rw [held] at stands
    cases stands with
    | unused early => exact absurd rfl early
    | kept kept =>
      refine (answers_read held).bind ?_
      rw [kept]
      rfl

private theorem keeps_insert (time : String) (event : Event)
    (keeps : Keeps .begun (room + 1) records files) :
    ∃ number after, Answers (insert time event) files () after ∧
      Keeps .begun room (records ++ [⟨number, time, event⟩]) after := by
  obtain ⟨beside, ledger, stands, numbered, fits, rfl⟩ := keeps
  have grown := numbered.add time event
  have fits : (ledger.add time event).lastNumber + room ≤ selectionLimit := by
    simp only [Ledger.add]
    omega
  have begun : (ledger.add time event).Stands .begun (.file (ledger.add time event).encode) :=
    .kept (ofBytes_encode grown (fits_of_room fits))
  obtain ⟨after, written, left⟩ := keeps_write beside begun grown fits
  exact ⟨_, after, (answers_current stands).bind written, left⟩

end Requests

/-- A ledger is a database that appends. -/
theorem appendOnly_database :
    database.AppendOnly (fun path => admits path = true) Keeps where
  files := Keeps.beside
  increasing := by
    rintro stage room records files ⟨-, ledger, -, numbered, -, rfl⟩
    exact numbered.increasing
  few := by
    rintro stage room records files ⟨-, ledger, -, numbered, fits, rfl⟩
    have few := numbered.few
    omega
  less := by
    rintro stage room records files ⟨beside, ledger, stands, numbered, fits, same⟩
    exact ⟨beside, ledger, stands, numbered, by omega, same⟩
  stored := by
    rintro stage room records files ⟨beside, ledger, stands, numbered, fits, same⟩
    exact ⟨beside, ledger, stands.stored, numbered, fits, same⟩
  connect := keeps_connect
  createTable := keeps_createTable
  insert := keeps_insert
  prepare := by
    rintro room records files ⟨beside, ledger, stands, numbered, fits, same⟩
    exact ⟨files, (answers_current stands).bind rfl, beside, ledger, stands, numbered, fits, same⟩
  select := by
    rintro room records files limit - ⟨beside, ledger, stands, numbered, fits, rfl⟩
    exact ⟨files, (answers_current stands).bind rfl, beside, ledger, stands, numbered, fits, rfl⟩

end Keywarden.Audit.Ledger
