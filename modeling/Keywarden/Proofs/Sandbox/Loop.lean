import Keywarden.Sandbox.Loop
import Keywarden.Sandbox.Shelf
import Mathlib.Tactic.Common

/-!
# What a service loop answers

Whatever the order in which the host and the service move, the service has at every moment
answered the first calls that were sent, in the order in which they were sent, as if they had
been run one after the other on the engine.  The calls that wait are the rest.

The loop ends only when its shutdown was signalled before, and from then on nothing is sent
and nothing is served.  A caller that gives up its slot is noticed by nobody else.
-/

namespace Keywarden.Sandbox

variable {σ : Type}

/-- The answers to calls that are run one after the other, and the engine after them. -/
def callAll (engine : Engine σ) : List HostCall → σ → List Answered × σ
  | [], engineState => ([], engineState)
  | next :: rest, engineState =>
    let (result, between) := call engine next.entryPoint next.args engineState
    let (answered, final) := callAll engine rest between
    (⟨next, result⟩ :: answered, final)

/-- The entry point exists and its arguments make sense, so that the engine is asked. -/
def AsksEngine (entryPoint : String) (args : Json.Content) : Prop :=
  (entryPoint = decryptRequest ∧ ∃ asked, decryptArguments args = .ok asked) ∨
    entryPoint = getIndex ∧ ∃ masterKey, keyArgument args = .ok masterKey

/-- The calls that moves send; the slot of a call is the number of those sent before it. -/
def sentFrom (sent : Nat) : List Move → List HostCall
  | [] => []
  | .send entryPoint args :: rest => ⟨sent, entryPoint, args⟩ :: sentFrom (sent + 1) rest
  | _ :: rest => sentFrom sent rest

/-- Whether a caller gives up its slot. -/
def Move.isAbandon : Move → Bool
  | .abandon _ => true
  | _ => false

private theorem call_of_unasked {entryPoint : String} {args : Json.Content}
    (unasked : ¬ AsksEngine entryPoint args) (engine : Engine σ) (engineState : σ) :
    (call engine entryPoint args engineState).2 = engineState := by
  simp only [AsksEngine, not_or, not_and, not_exists] at unasked
  obtain ⟨noFile, noIndex⟩ := unasked
  change (dispatch engine entryPoint args engineState).2 = engineState
  unfold dispatch
  by_cases isFile : entryPoint = decryptRequest
  · rw [if_pos isFile]
    cases checked : decryptArguments args with
    | ok asked => exact absurd checked (noFile isFile asked)
    | error failure => rfl
  rw [if_neg isFile]
  by_cases isIndex : entryPoint = getIndex
  · rw [if_pos isIndex]
    cases checked : keyArgument args with
    | ok masterKey => exact absurd checked (noIndex isIndex masterKey)
    | error failure => rfl
  · rw [if_neg isIndex]

theorem callAll_append (engine : Engine σ) (front back : List HostCall) (engineState : σ) :
    callAll engine (front ++ back) engineState =
      ((callAll engine front engineState).1 ++
          (callAll engine back (callAll engine front engineState).2).1,
        (callAll engine back (callAll engine front engineState).2).2) := by
  induction front generalizing engineState with
  | nil => rfl
  | cons next rest ih => simp only [List.cons_append, callAll, ih]

private theorem sentFrom_append (sent : Nat) (front back : List Move) :
    sentFrom sent (front ++ back) =
      sentFrom sent front ++ sentFrom (sent + (sentFrom sent front).length) back := by
  induction front generalizing sent with
  | nil => rfl
  | cons move rest ih =>
    cases move with
    | send entryPoint args =>
      have shifted : sent + 1 + (sentFrom (sent + 1) rest).length =
          sent + ((sentFrom (sent + 1) rest).length + 1) := by omega
      simp only [List.cons_append, sentFrom, ih, List.length_cons, shifted]
    | _ => exact ih sent

/-- Calls are numbered in the order in which they are sent. -/
theorem slots_sentFrom (sent : Nat) (moves : List Move) :
    (sentFrom sent moves).map HostCall.slot = List.range' sent (sentFrom sent moves).length := by
  induction moves generalizing sent with
  | nil => rfl
  | cons move rest ih =>
    cases move with
    | send entryPoint args =>
      simp only [sentFrom, List.map_cons, List.length_cons, List.range'_succ, ih]
    | _ => exact ih sent

namespace Loop

variable {engine : Engine σ} {loop next final : Loop σ} {move : Move} {moves : List Move}

/-- The loop after moves, if they are possible one after the other. -/
def run? (engine : Engine σ) (loop : Loop σ) : List Move → Option (Loop σ)
  | [] => some loop
  | move :: rest => (loop.step? engine move).bind fun next => next.run? engine rest

/-! ### What a move can do -/

/-- What a move does when it is possible. -/
inductive Moved (engine : Engine σ) (loop : Loop σ) : Move → Loop σ → Prop
  | sent {entryPoint : String} {args : Json.Content} (isOpen : loop.isOpen = true)
      (running : loop.isRunning = true) :
      Moved engine loop (.send entryPoint args)
        { loop with
          queue := loop.queue ++ [⟨loop.sent, entryPoint, args⟩], sent := loop.sent + 1 }
  | abandoned {slot : Nat} :
      Moved engine loop (.abandon slot) { loop with abandoned := slot :: loop.abandoned }
  | closed : Moved engine loop .closeCalls { loop with isOpen := false }
  | signalled : Moved engine loop .shutdown { loop with isShutdown := true }
  | served {next : HostCall} {rest : List HostCall} (waiting : loop.queue = next :: rest)
      (running : loop.isRunning = true) (accepting : loop.isAccepting = true) :
      Moved engine loop .serve (loop.serveCall engine next rest)
  | drained (running : loop.isRunning = true) (accepting : loop.isAccepting = true)
      (empty : loop.queue = []) (closed : loop.isOpen = false) :
      Moved engine loop .stopAccepting { loop with isAccepting := false }
  | finished (running : loop.isRunning = true) (signalled : loop.isShutdown = true) :
      Moved engine loop .finish { loop with isRunning := false }

private theorem step?_eq_some :
    loop.step? engine move = some next ↔ Moved engine loop move next := by
  constructor
  · intro stepped
    cases move with
    | send entryPoint args =>
      simp only [step?, Option.ite_none_right_eq_some, Bool.and_eq_true,
        Option.some.injEq] at stepped
      obtain ⟨⟨isOpen, running⟩, rfl⟩ := stepped
      exact .sent isOpen running
    | abandon slot =>
      cases stepped
      exact .abandoned
    | closeCalls =>
      cases stepped
      exact .closed
    | shutdown =>
      cases stepped
      exact .signalled
    | serve =>
      cases waiting : loop.queue with
      | nil => simp [step?, waiting] at stepped
      | cons first rest =>
        simp only [step?, waiting, Option.ite_none_right_eq_some, Bool.and_eq_true,
          Option.some.injEq] at stepped
        obtain ⟨⟨running, accepting⟩, rfl⟩ := stepped
        exact .served waiting running accepting
    | stopAccepting =>
      simp only [step?, Option.ite_none_right_eq_some, Bool.and_eq_true, List.isEmpty_iff,
        Bool.not_eq_true', Option.some.injEq] at stepped
      obtain ⟨⟨⟨⟨running, accepting⟩, empty⟩, closed⟩, rfl⟩ := stepped
      exact .drained running accepting empty closed
    | finish =>
      simp only [step?, Option.ite_none_right_eq_some, Bool.and_eq_true,
        Option.some.injEq] at stepped
      obtain ⟨⟨running, signalled⟩, rfl⟩ := stepped
      exact .finished running signalled
  · intro moved
    cases moved with
    | sent isOpen running => simp [step?, isOpen, running]
    | abandoned => rfl
    | closed => rfl
    | signalled => rfl
    | served waiting running accepting => simp [step?, waiting, running, accepting]
    | drained running accepting empty closed => simp [step?, running, accepting, empty, closed]
    | finished running signalled => simp [step?, running, signalled]

theorem run?_cons {rest : List Move} :
    loop.run? engine (move :: rest) = some final ↔
      ∃ next, Moved engine loop move next ∧ next.run? engine rest = some final := by
  simp only [run?, Option.bind_eq_some_iff, step?_eq_some]

private theorem run?_append {front back : List Move} :
    loop.run? engine (front ++ back) = some final ↔
      ∃ between, loop.run? engine front = some between ∧
        between.run? engine back = some final := by
  induction front generalizing loop with
  | nil => simp [run?]
  | cons move rest ih =>
    simp only [List.cons_append, run?_cons, ih]
    constructor
    · rintro ⟨next, moved, between, ran, later⟩
      exact ⟨between, ⟨next, moved, ran⟩, later⟩
    · rintro ⟨between, ⟨next, moved, ran⟩, later⟩
      exact ⟨next, moved, between, ran, later⟩

/-- What holds at the start and is kept by every move, given the moves so far, holds after
every run. -/
theorem run?_induction {Holds : List Move → Loop σ → Prop}
    (keeps : ∀ past loop move next, Holds past loop → Moved engine loop move next →
      Holds (past ++ [move]) next)
    {past : List Move} (holds : Holds past loop) (ran : loop.run? engine moves = some final) :
    Holds (past ++ moves) final := by
  induction moves generalizing past loop with
  | nil =>
    cases ran
    rwa [List.append_nil]
  | cons move rest ih =>
    obtain ⟨next, moved, ran⟩ := run?_cons.mp ran
    have later := ih (keeps past loop move next holds moved) ran
    rwa [List.append_assoc] at later

/-! ### The calls -/

/-- The loop accounts for all calls that moves sent: the first of them are answered as if they
had been run one after the other, and the rest waits in order. -/
structure Accounts (engine : Engine σ) (first : σ) (past : List Move) (loop : Loop σ) : Prop where
  sent_eq : loop.sent = (sentFrom 0 past).length
  calls_eq : sentFrom 0 past = loop.answered.map Answered.call ++ loop.queue
  results_eq : callAll engine (loop.answered.map Answered.call) first =
    (loop.answered, loop.engineState)

theorem Accounts.moved {first : σ} {past : List Move} (accounts : Accounts engine first past loop)
    (moved : Moved engine loop move next) : Accounts engine first (past ++ [move]) next := by
  have silent (nothing : ∀ sent, sentFrom sent [move] = []) (sameSent : next.sent = loop.sent)
      (sameQueue : next.queue = loop.queue) (sameAnswered : next.answered = loop.answered)
      (sameState : next.engineState = loop.engineState) :
      Accounts engine first (past ++ [move]) next := by
    have same : sentFrom 0 (past ++ [move]) = sentFrom 0 past := by
      rw [sentFrom_append, nothing, List.append_nil]
    constructor
    · rw [same, sameSent, accounts.sent_eq]
    · rw [same, sameQueue, sameAnswered, accounts.calls_eq]
    · rw [sameAnswered, sameState, accounts.results_eq]
  cases moved with
  | @sent entryPoint args isOpen running =>
    have grown : sentFrom 0 (past ++ [.send entryPoint args]) =
        sentFrom 0 past ++ [⟨loop.sent, entryPoint, args⟩] := by
      rw [sentFrom_append, Nat.zero_add, ← accounts.sent_eq]
      rfl
    constructor
    · rw [grown, List.length_append, ← accounts.sent_eq]
      rfl
    · rw [grown, accounts.calls_eq, List.append_assoc]
    · exact accounts.results_eq
  | @served first' rest waiting running accepting =>
    have same : sentFrom 0 (past ++ [.serve]) = sentFrom 0 past := by
      rw [sentFrom_append]
      exact List.append_nil _
    constructor
    · rw [same]
      exact accounts.sent_eq
    · rw [same, accounts.calls_eq, waiting]
      simp [serveCall]
    · simp only [serveCall, List.map_append, List.map_cons, List.map_nil, callAll_append,
        accounts.results_eq]
      rfl
  | abandoned => exact silent (fun _ => rfl) rfl rfl rfl rfl
  | closed => exact silent (fun _ => rfl) rfl rfl rfl rfl
  | signalled => exact silent (fun _ => rfl) rfl rfl rfl rfl
  | drained => exact silent (fun _ => rfl) rfl rfl rfl rfl
  | finished => exact silent (fun _ => rfl) rfl rfl rfl rfl

private theorem accounts_of_run {first : σ} (ran : (start first).run? engine moves = some loop) :
    Accounts engine first moves loop := by
  have begins : Accounts engine first [] (start first) := ⟨rfl, rfl, rfl⟩
  exact run?_induction (fun past loop move next accounts moved => accounts.moved moved) begins ran

/-- Every call is answered into the slot of its own number. -/
theorem Accounts.slots {first : σ} (accounts : Accounts engine first moves loop) :
    loop.answered.map (fun answered => answered.call.slot) =
      List.range loop.answered.length := by
  have numbered := slots_sentFrom 0 moves
  rw [accounts.calls_eq, List.map_append, List.length_append, List.length_map,
    ← List.range'_append_1] at numbered
  have split := (List.append_inj numbered (by simp)).1
  rw [List.map_map] at split
  rw [List.range_eq_range']
  exact split

/-- A list whose members are numbered by their places is searched by place. -/
theorem find?_slot {answered : List Answered}
    (slots : answered.map (fun answered => answered.call.slot) = List.range answered.length)
    (slot : Nat) :
    (answered.find? fun answered => answered.call.slot == slot) = answered[slot]? := by
  have at_place (index : Nat) (inside : index < answered.length) :
      answered[index].call.slot = index := by
    have read : (answered.map fun answered => answered.call.slot)[index]? = some index := by
      rw [slots]
      simp [inside]
    simpa [inside] using read
  by_cases inside : slot < answered.length
  · rw [List.getElem?_eq_getElem inside, List.find?_eq_some_iff_getElem]
    refine ⟨by simp [at_place slot inside], slot, inside, rfl, ?_⟩
    intro earlier before
    have other := at_place earlier (by omega)
    simp only [other, Bool.not_eq_true', beq_eq_false_iff_ne]
    omega
  · rw [List.getElem?_eq_none (by omega), List.find?_eq_none]
    intro found member
    obtain ⟨index, bound, rfl⟩ := List.getElem_of_mem member
    have other := at_place index bound
    simp only [other, beq_iff_eq]
    omega

theorem Accounts.reply?_eq {first : σ} (accounts : Accounts engine first moves loop)
    (slot : Nat) :
    loop.reply? slot =
      if slot ∈ loop.abandoned then none else loop.answered[slot]?.map Answered.result := by
  simp only [reply?, List.contains_iff_mem, find?_slot accounts.slots]

/-- A call that leaves the engine as it found it could have been left out. -/
theorem callAll_without {first between final : σ} {front back : List Answered} {left : Answered}
    (ran : callAll engine ((front ++ left :: back).map Answered.call) first =
      (front ++ left :: back, final))
    (ranFront : callAll engine (front.map Answered.call) first = (front, between))
    (unchanged : (call engine left.call.entryPoint left.call.args between).2 = between) :
    callAll engine ((front ++ back).map Answered.call) first = (front ++ back, final) := by
  rw [List.map_append, callAll_append, ranFront] at ran ⊢
  simp only [List.map_cons, callAll, unchanged, Prod.mk.injEq] at ran
  obtain ⟨answered, rfl⟩ := ran
  have same := (List.cons.inj (List.append_cancel_left answered)).2
  rw [same]

/-! ### Callers that give up -/

/-- The loop as it is for callers who never give up. -/
def patient (loop : Loop σ) : Loop σ :=
  { loop with abandoned := [] }

theorem Moved.patient (moved : Moved engine loop move next) :
    move.isAbandon = true ∧ next.patient = loop.patient ∨
      move.isAbandon = false ∧ Moved engine loop.patient move next.patient := by
  cases moved with
  | abandoned => exact .inl ⟨rfl, rfl⟩
  | sent isOpen running => exact .inr ⟨rfl, .sent isOpen running⟩
  | closed => exact .inr ⟨rfl, .closed⟩
  | signalled => exact .inr ⟨rfl, .signalled⟩
  | served waiting running accepting => exact .inr ⟨rfl, .served waiting running accepting⟩
  | drained running accepting empty closed =>
    exact .inr ⟨rfl, .drained running accepting empty closed⟩
  | finished running signalled => exact .inr ⟨rfl, .finished running signalled⟩

/-- Without the moves of those who give up, the rest of a run is possible as it was. -/
theorem run?_patient (ran : loop.run? engine moves = some final) :
    loop.patient.run? engine (moves.filter fun move => !move.isAbandon) = some final.patient := by
  induction moves generalizing loop with
  | nil =>
    cases ran
    rfl
  | cons move rest ih =>
    obtain ⟨next, moved, ran⟩ := run?_cons.mp ran
    rcases moved.patient with ⟨gives, same⟩ | ⟨stays, moved⟩
    · rw [List.filter_cons_of_neg (by simp [gives]), ← same]
      exact ih ran
    · rw [List.filter_cons_of_pos (by simp [stays])]
      exact run?_cons.mpr ⟨next.patient, moved, ih ran⟩

/-! ### The end -/

/-- What the state of the loop tells about the moves so far. -/
structure Phase (past : List Move) (loop : Loop σ) : Prop where
  signalled : loop.isShutdown = true → .shutdown ∈ past
  ended : loop.isRunning = false → .finish ∈ past
  drained : loop.isAccepting = false → loop.queue = [] ∧ loop.isOpen = false

theorem Phase.moved {past : List Move} (phase : Phase past loop)
    (moved : Moved engine loop move next) : Phase (past ++ [move]) next := by
  have signalled (same : next.isShutdown = loop.isShutdown) :
      next.isShutdown = true → .shutdown ∈ past ++ [move] := by
    rw [same]
    exact fun signalled => List.mem_append_left _ (phase.signalled signalled)
  have ended (same : next.isRunning = loop.isRunning) :
      next.isRunning = false → .finish ∈ past ++ [move] := by
    rw [same]
    exact fun ended => List.mem_append_left _ (phase.ended ended)
  cases moved with
  | sent isOpen running =>
    refine ⟨signalled rfl, ended rfl, fun idle => ?_⟩
    cases isOpen.symm.trans (phase.drained idle).2
  | abandoned => exact ⟨signalled rfl, ended rfl, phase.drained⟩
  | closed => exact ⟨signalled rfl, ended rfl, fun idle => ⟨(phase.drained idle).1, rfl⟩⟩
  | signalled => exact ⟨fun _ => by simp, ended rfl, phase.drained⟩
  | served waiting running accepting =>
    refine ⟨signalled rfl, ended rfl, fun idle => ?_⟩
    cases accepting.symm.trans idle
  | drained running accepting empty closed =>
    exact ⟨signalled rfl, ended rfl, fun _ => ⟨empty, closed⟩⟩
  | finished running down => exact ⟨signalled rfl, fun _ => by simp, phase.drained⟩

theorem phase_of_run {first : σ} (ran : (start first).run? engine moves = some loop) :
    Phase moves loop := by
  have begins : Phase [] (start first) := ⟨nofun, nofun, nofun⟩
  exact run?_induction (fun past loop move next phase moved => phase.moved moved) begins ran

/-- After its end a loop serves nothing. -/
theorem run?_ended (ended : loop.isRunning = false) (ran : loop.run? engine moves = some final) :
    .serve ∉ moves ∧ final.answered = loop.answered ∧ final.engineState = loop.engineState := by
  induction moves generalizing loop with
  | nil =>
    cases ran
    exact ⟨nofun, rfl, rfl⟩
  | cons move rest ih =>
    obtain ⟨next, moved, ran⟩ := run?_cons.mp ran
    cases moved with
    | sent isOpen running => cases running.symm.trans ended
    | served waiting running accepting => cases running.symm.trans ended
    | drained running accepting empty closed => cases running.symm.trans ended
    | finished running signalled => cases running.symm.trans ended
    | abandoned | closed | signalled =>
      obtain ⟨noServe, same⟩ := ih (by exact ended) ran
      exact ⟨by simpa using noServe, same⟩

/-- A loop ends by its own move, after its shutdown was signalled. -/
theorem ending_of_run {first : σ} (ran : (start first).run? engine moves = some loop)
    (ended : loop.isRunning = false) :
    ∃ before after last, moves = before ++ .finish :: after ∧ .shutdown ∈ before ∧
      .serve ∉ after ∧ (start first).run? engine before = some last ∧
      last.isRunning = true ∧ loop.answered = last.answered ∧
      loop.engineState = last.engineState := by
  obtain ⟨before, after, rfl⟩ := List.append_of_mem ((phase_of_run ran).ended ended)
  obtain ⟨last, ranBefore, later⟩ := run?_append.mp ran
  obtain ⟨next, moved, later⟩ := run?_cons.mp later
  cases moved with
  | finished running signalled =>
    obtain ⟨noServe, sameAnswered, sameState⟩ := run?_ended rfl later
    exact ⟨before, after, last, rfl, (phase_of_run ranBefore).signalled signalled, noServe,
      ranBefore, running, sameAnswered, sameState⟩

/-! ### Main result -/

/-- What a service loop has done after any moves of the host and the service.

* The calls sent are those served, then those that wait; the results are those of running the
  served ones one after the other, and the engine is as that leaves it.
* Each call is answered once, into its own slot, unless its caller gave up.
* Callers that give up change nothing for others, nor does a call that is refused before the
  engine is asked or that leaves the engine as it was.
* While no shutdown was signalled the loop goes on, and no call is lost when the host closes.
* The loop ends after a shutdown only, and serves nothing from then on. -/
theorem answers_in_order {engine : Engine σ} {first : σ} {moves : List Move} {loop : Loop σ}
    (ran : (start first).run? engine moves = some loop) :
    (∃ served, sentFrom 0 moves = served ++ loop.queue ∧
      callAll engine served first = (loop.answered, loop.engineState) ∧
      served.map HostCall.slot = List.range served.length) ∧
    (∀ slot, loop.reply? slot =
      if slot ∈ loop.abandoned then none else loop.answered[slot]?.map Answered.result) ∧
    (start first).run? engine (moves.filter fun move => !move.isAbandon) = some loop.patient ∧
    (∀ front left back between, loop.answered = front ++ left :: back →
      callAll engine (front.map Answered.call) first = (front, between) →
      (AsksEngine left.call.entryPoint left.call.args →
        (call engine left.call.entryPoint left.call.args between).2 = between) →
      callAll engine ((front ++ back).map Answered.call) first =
        (front ++ back, loop.engineState)) ∧
    (.shutdown ∉ moves → loop.isRunning = true) ∧
    (loop.isAccepting = false → loop.queue = [] ∧ loop.isOpen = false) ∧
    (loop.isRunning = false →
      ∃ before after last, moves = before ++ .finish :: after ∧ .shutdown ∈ before ∧
        .serve ∉ after ∧ (start first).run? engine before = some last ∧
        last.isRunning = true ∧ loop.answered = last.answered ∧
        loop.engineState = last.engineState) := by
  have accounts := accounts_of_run ran
  have slots : (loop.answered.map Answered.call).map HostCall.slot =
      List.range (loop.answered.map Answered.call).length := by
    rw [List.map_map, List.length_map]
    exact accounts.slots
  refine ⟨⟨_, accounts.calls_eq, accounts.results_eq, slots⟩, accounts.reply?_eq,
    run?_patient ran, ?_, ?_, (phase_of_run ran).drained, ending_of_run ran⟩
  · intro front left back between split ranFront unchanged
    have ranAll := accounts.results_eq
    rw [split] at ranAll
    refine callAll_without ranAll ranFront ?_
    by_cases asks : AsksEngine left.call.entryPoint left.call.args
    · exact unchanged asks
    · exact call_of_unasked asks engine between
  · intro unsignalled
    by_contra ended
    obtain ⟨before, after, last, rfl, signalled, -⟩ :=
      ending_of_run ran (eq_false_of_ne_true ended)
    exact unsignalled (List.mem_append_left _ signalled)

/-- Three calls for the index and one for something else, of which the first caller gives up;
the host closes and signals shutdown, one more call is served, and the last one is not. -/
def session : List Move :=
  let args : Json.Content := .object [("masterKey", textValue (Base64.encode (Bytes.zeros 32)))]
  [.send getIndex args, .send "exportKeys" args, .send getIndex args, .send getIndex args,
    .abandon 0, .serve, .serve, .closeCalls, .shutdown, .serve, .finish]

theorem session_answers :
    ∃ loop, (start 5).run? (Shelf.engine ⟨none, [], none⟩) session = some loop ∧
      loop.isRunning = false ∧
      (List.range 4).map loop.reply? =
        [none, some (.error ⟨"invalid_input", "Command failed"⟩), some (.ok (handleAnswer 6)),
          none] ∧
      ∃ before after last, session = before ++ .finish :: after ∧ .shutdown ∈ before ∧
        .serve ∉ after ∧
        (start 5).run? (Shelf.engine ⟨none, [], none⟩) before = some last ∧
        last.isRunning = true ∧ loop.answered = last.answered ∧
        loop.engineState = last.engineState := by
  have runs : ((start 5).run? (Shelf.engine ⟨none, [], none⟩) session).isSome = true := by
    decide +kernel
  have ran := (Option.some_get runs).symm
  obtain ⟨-, -, -, -, -, -, ends⟩ := answers_in_order ran
  exact ⟨_, ran, rfl, rfl, ends rfl⟩

end Loop

end Keywarden.Sandbox
