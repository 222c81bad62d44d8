import Keywarden.UnlockService
import Keywarden.Proofs.Action.Keeps

/-!
# What subscribers learn of unlocks

Requests, subscriptions and looks for events may come in any order.  A request is answered as
the unlocking of its passphrase ends, whoever listens.  Every success is one event for everyone
who has subscribed by then: it is received, reported as missed, or still to come.
-/

namespace Keywarden

namespace Notifier

variable {notifier : Notifier} {index next : Nat}

/-- How many events a subscriber has neither received nor been told to have missed. -/
def pending (index : Nat) (notifier : Notifier) : Nat :=
  match notifier.subscribers[index]? with
  | some (some next) => notifier.published - next
  | _ => 0

/-- Only unlocks were published, the latest of them are kept, and nobody has read ahead. -/
structure Sound (notifier : Notifier) : Prop where
  kept : notifier.kept = List.replicate (min notifier.published capacity) .unlocked
  behind : ∀ next : Nat, some next ∈ notifier.subscribers → next ≤ notifier.published

/-- The notifier after a subscriber went on to another event. -/
def moveTo (index next : Nat) (notifier : Notifier) : Notifier :=
  { notifier with subscribers := notifier.subscribers.set index (some next) }

private theorem sound_empty : empty.Sound where
  kept := rfl
  behind next member := by simp [empty] at member

theorem Sound.subscribe (sound : notifier.Sound) : notifier.subscribe.2.Sound where
  kept := sound.kept
  behind next member := by
    simp only [Notifier.subscribe, List.mem_append, List.mem_singleton, Option.some.injEq] at member
    rcases member with before | rfl
    · exact sound.behind next before
    · exact Nat.le_refl _

theorem Sound.publish (sound : notifier.Sound) : (notifier.publish .unlocked).Sound where
  kept := by
    simp only [Notifier.publish, sound.kept, ← List.replicate_succ', List.length_replicate,
      List.drop_replicate]
    congr 1
    omega
  behind next member := by
    have before := sound.behind next member
    simp only [Notifier.publish]
    omega

theorem Sound.moveTo (sound : notifier.Sound) (index : Nat) (reached : next ≤ notifier.published) :
    (notifier.moveTo index next).Sound where
  kept := sound.kept
  behind other member := by
    rcases List.mem_or_eq_of_mem_set member with before | same
    · exact sound.behind other before
    · cases same
      exact reached

theorem Sound.oldest_eq (sound : notifier.Sound) :
    notifier.oldest = notifier.published - capacity := by
  rw [oldest, sound.kept, List.length_replicate]
  omega

/-! ### Looking for an event -/

/-- What a subscriber finds, by the number of events that are pending. -/
inductive Finds (notifier : Notifier) (index next : Nat) : Received → Notifier → Prop
  | nothing (upToDate : notifier.pending index = 0) :
      Finds notifier index next .empty notifier
  | event (few : notifier.pending index ≤ capacity) (some : 0 < notifier.pending index) :
      Finds notifier index next (.event .unlocked) (notifier.moveTo index (next + 1))
  | lagged (many : capacity < notifier.pending index) :
      Finds notifier index next (.lagged (notifier.pending index - capacity))
        (notifier.moveTo index (notifier.published - capacity))

theorem finds_receive (sound : notifier.Sound)
    (subscribed : notifier.subscribers[index]? = some (some next)) {received : Received}
    {after : Notifier} (looked : notifier.receive index = (received, after)) :
    notifier.Finds index next received after := by
  have pending : notifier.pending index = notifier.published - next := by
    simp only [Notifier.pending, subscribed]
  have behind : next ≤ notifier.published := sound.behind next (List.mem_of_getElem? subscribed)
  have oldest := sound.oldest_eq
  simp only [receive, subscribed] at looked
  split at looked
  · rename_i late
    cases looked
    have missed : notifier.oldest - next = notifier.pending index - capacity := by omega
    rw [missed, oldest]
    exact .lagged (by omega)
  · rename_i inTime
    by_cases upToDate : next = notifier.published
    · have nothing : notifier.kept[next - notifier.oldest]? = none := by
        rw [sound.kept, List.getElem?_eq_none_iff, List.length_replicate]
        omega
      rw [nothing] at looked
      cases looked
      exact .nothing (by omega)
    · have found : notifier.kept[next - notifier.oldest]? = some .unlocked := by
        rw [sound.kept]
        apply List.getElem?_replicate_of_lt
        omega
      rw [found] at looked
      cases looked
      exact .event (by omega) (by omega)

theorem receive_unsubscribed (absent : ∀ next : Nat, notifier.subscribers[index]? ≠ some (some next)) :
    notifier.receive index = (.unsubscribed, notifier) := by
  unfold receive
  split
  · exact absurd ‹_› (absent _)
  · rfl

theorem Sound.receive (sound : notifier.Sound) (index : Nat) :
    (notifier.receive index).2.Sound := by
  by_cases subscribed : ∃ next : Nat, notifier.subscribers[index]? = some (some next)
  · obtain ⟨next, subscribed⟩ := subscribed
    have pending : notifier.pending index = notifier.published - next := by
      simp only [Notifier.pending, subscribed]
    rcases looked : notifier.receive index with ⟨received, after⟩
    cases finds_receive sound subscribed looked with
    | nothing upToDate => exact sound
    | event few some => exact sound.moveTo index (by omega)
    | lagged many => exact sound.moveTo index (by omega)
  · rw [receive_unsubscribed (not_exists.mp subscribed)]
    exact sound

theorem moveTo_subscribers (inside : index < notifier.subscribers.length) :
    (notifier.moveTo index next).subscribers[index]? = some (some next) := by
  simp [moveTo, inside]

theorem pending_moveTo (inside : index < notifier.subscribers.length) :
    (notifier.moveTo index next).pending index = notifier.published - next := by
  simp only [pending, moveTo_subscribers inside]
  rfl

private theorem pending_moveTo_of_ne {other : Nat} (apart : other ≠ index) :
    (notifier.moveTo other next).pending index = notifier.pending index := by
  simp [pending, moveTo, List.getElem?_set_ne apart]

def looks (index : Nat) : Nat → Notifier → List Received
  | 0, _ => []
  | count + 1, notifier =>
    let (received, after) := notifier.receive index
    received :: looks index count after

/-- What a subscriber is going to find when so many events are pending. -/
def backlog (pending : Nat) : List Received :=
  (if capacity < pending then [.lagged (pending - capacity)] else []) ++
    List.replicate (min pending capacity) (.event .unlocked)

theorem inside_of_subscribed {position : Option Nat}
    (subscribed : notifier.subscribers[index]? = some position) :
    index < notifier.subscribers.length :=
  (List.getElem?_eq_some_iff.mp subscribed).1

private theorem looks_few (sound : notifier.Sound)
    (subscribed : notifier.subscribers[index]? = some (some next))
    (few : notifier.pending index ≤ capacity) :
    looks index (notifier.pending index + 1) notifier =
      List.replicate (notifier.pending index) (.event .unlocked) ++ [.empty] := by
  induction left : notifier.pending index generalizing notifier next with
  | zero =>
    rcases looked : notifier.receive index with ⟨received, after⟩
    cases finds_receive sound subscribed looked with
    | nothing upToDate => simp [looks, looked]
    | event few some => omega
    | lagged many => omega
  | succ count ih =>
    have pending : notifier.pending index = notifier.published - next := by
      simp only [Notifier.pending, subscribed]
    have inside := inside_of_subscribed subscribed
    rcases looked : notifier.receive index with ⟨received, after⟩
    cases finds_receive sound subscribed looked with
    | nothing upToDate => omega
    | event few some =>
      have fewer : (notifier.moveTo index (next + 1)).pending index = count := by
        rw [pending_moveTo inside]
        omega
      have later := ih (sound.moveTo index (by omega)) (moveTo_subscribers inside) (by omega) fewer
      rw [looks, looked]
      simp only [later, List.replicate_succ, List.cons_append]
    | lagged many => omega

/-- Whoever looks often enough finds all that is pending, and then nothing. -/
theorem looks_pending (sound : notifier.Sound)
    (subscribed : notifier.subscribers[index]? = some (some next)) :
    looks index ((backlog (notifier.pending index)).length + 1) notifier =
      backlog (notifier.pending index) ++ [.empty] := by
  by_cases many : capacity < notifier.pending index
  · have inside := inside_of_subscribed subscribed
    have pending : notifier.pending index = notifier.published - next := by
      simp only [Notifier.pending, subscribed]
    rcases looked : notifier.receive index with ⟨received, after⟩
    cases finds_receive sound subscribed looked with
    | nothing upToDate => omega
    | event few some => omega
    | lagged many =>
      have full : (notifier.moveTo index (notifier.published - capacity)).pending index =
          capacity := by
        rw [pending_moveTo inside]
        omega
      have later := looks_few (sound.moveTo index (by omega)) (moveTo_subscribers inside)
        (Nat.le_of_eq full)
      rw [full] at later
      have least : min (notifier.pending index) capacity = capacity := by omega
      simp only [backlog, if_pos many, least, List.length_append, List.length_replicate,
        List.length_singleton, looks, looked]
      rw [Nat.add_comm 1 capacity, later]
      rfl
  · have least : min (notifier.pending index) capacity = notifier.pending index := by omega
    simp only [backlog, if_neg many, least, List.nil_append, List.length_replicate]
    exact looks_few sound subscribed (by omega)

end Notifier

namespace UnlockService

open Keywarden.Action

variable {σ : Type} {info : InfoFile} {primitives : Primitives σ}

/-- What can happen to a service. -/
inductive Move
  | subscribe
  | request (request : UnlockRequest)
  /-- A subscriber looks for its next event. -/
  | look (index : Nat)

/-- What is seen of a move. -/
inductive Outcome
  | subscribed (index : Nat)
  | answered (answer : Except Stop (Unlocked × UnlockResponse))
  | found (received : Received)

def move (info : InfoFile) (primitives : Primitives σ) (service : UnlockService σ) :
    Move → Outcome × UnlockService σ
  | .subscribe =>
    let (index, notifier) := service.notifier.subscribe
    (.subscribed index, { service with notifier })
  | .request request =>
    let (answer, after) := handle info request primitives service
    (.answered answer, after)
  | .look index =>
    let (received, notifier) := service.notifier.receive index
    (.found received, { service with notifier })

/-- Makes moves in order, and says what was seen of each. -/
def run (info : InfoFile) (primitives : Primitives σ) :
    List Move → UnlockService σ → List (Move × Outcome) × UnlockService σ
  | [], service => ([], service)
  | next :: rest, service =>
    let (outcome, between) := service.move info primitives next
    let (seen, final) := run info primitives rest between
    ((next, outcome) :: seen, final)

/-! ### What was seen -/

/-- The event that a subscriber received. -/
def eventFor? (index : Nat) : Move × Outcome → Option Event
  | (.look other, .found (.event event)) => if other = index then some event else none
  | _ => none

/-- How many events a subscriber was told to have missed. -/
def missedBy (index : Nat) : Move × Outcome → Nat
  | (.look other, .found (.lagged missed)) => if other = index then missed else 0
  | _ => 0

/-- How many events a subscriber was told to have missed in all. -/
def missed (index : Nat) : List (Move × Outcome) → Nat
  | [] => 0
  | seen :: rest => missedBy index seen + missed index rest

/-- Whether a request was answered with a key. -/
def isSuccess : Move × Outcome → Bool
  | (_, .answered (.ok _)) => true
  | _ => false

def answer? : Move × Outcome → Option (Except Stop (Unlocked × UnlockResponse))
  | (_, .answered answer) => some answer
  | _ => none

def Move.request? : Move → Option UnlockRequest
  | .request asked => some asked
  | _ => none

/-- What a transport answers when a key was found. -/
def responseTo (unlocked : Unlocked) : Unlocked × UnlockResponse :=
  (unlocked, ⟨unlocked.factor.shown⟩)

/-- The answers of building blocks that unlock with one passphrase after the other, and their
state at the end. -/
def unlockAll (info : InfoFile) (primitives : Primitives σ) :
    List UnlockRequest → σ → List (Except Stop (Unlocked × UnlockResponse)) × σ
  | [], host => ([], host)
  | request :: rest, host =>
    let (outcome, between) :=
      Unlocking.unlock info primitives (.stored (some request.passphrase)) host
    let (answers, final) := unlockAll info primitives rest between
    (outcome.map responseTo :: answers, final)

/-- A request is answered as its passphrase unlocks, and a success is published. -/
theorem handle_eq (info : InfoFile) (request : UnlockRequest) (primitives : Primitives σ)
    (service : UnlockService σ) :
    handle info request primitives service =
      match Unlocking.unlock info primitives (.stored (some request.passphrase)) service.host with
      | (.ok unlocked, host) =>
        (.ok (responseTo unlocked), ⟨service.notifier.publish .unlocked, host⟩)
      | (.error stop, host) => (.error stop, { service with host }) := by
  unfold handle
  rcases searched : Unlocking.unlock info primitives (.stored (some request.passphrase))
    service.host with ⟨stop | unlocked, host⟩
  · have stopped : (lift (Unlocking.unlock info primitives (.stored (some request.passphrase)))
        : Action (UnlockService σ) Unlocked).Stops service stop { service with host } :=
      run_focus.mpr ⟨host, searched, rfl⟩
    exact stops_bind.mpr (.inl stopped)
  · have returned : (lift (Unlocking.unlock info primitives (.stored (some request.passphrase)))
        : Action (UnlockService σ) Unlocked).Returns service unlocked { service with host } :=
      run_focus.mpr ⟨host, searched, rfl⟩
    rw [returned.bind_eq]
    rfl

/-! ### The account of a subscriber -/

variable {index : Nat} {service : UnlockService σ}

/-- The subscriber has not left. -/
def Listens (index : Nat) (notifier : Notifier) : Prop :=
  ∃ next : Nat, notifier.subscribers[index]? = some (some next)

/-- Between two states a subscriber received unlocks only, and what it received, what it was told
to have missed and what is pending add up to what was pending and what has succeeded since. -/
structure Balanced (index : Nat) (before after : Notifier) (seen : List (Move × Outcome)) :
    Prop where
  listens : Listens index after
  constant : ∃ received, seen.filterMap (eventFor? index) = List.replicate received .unlocked ∧
    received + missed index seen + after.pending index =
      before.pending index + seen.countP isSuccess

private theorem missed_append (index : Nat) (front back : List (Move × Outcome)) :
    missed index (front ++ back) = missed index front + missed index back := by
  induction front with
  | nil => simp [missed]
  | cons seen front ih => simp only [List.cons_append, missed, ih, Nat.add_assoc]

theorem Balanced.append {before between after : Notifier} {front back : List (Move × Outcome)}
    (first : Balanced index before between front) (second : Balanced index between after back) :
    Balanced index before after (front ++ back) := by
  obtain ⟨-, early, earlyEvents, earlyBalance⟩ := first
  obtain ⟨listens, late, lateEvents, lateBalance⟩ := second
  refine ⟨listens, early + late, ?_, ?_⟩
  · rw [List.filterMap_append, earlyEvents, lateEvents, List.replicate_append_replicate]
  · rw [missed_append, List.countP_append]
    omega

theorem Balanced.of_quiet {before after : Notifier} {seen : Move × Outcome}
    (listens : Listens index after) (noEvent : eventFor? index seen = none)
    (noLoss : missedBy index seen = 0)
    (pending : after.pending index = before.pending index + (isSuccess seen).toNat) :
    Balanced index before after [seen] := by
  refine ⟨listens, 0, ?_, ?_⟩
  · simp [noEvent]
  · cases success : isSuccess seen <;> simp [missed, success, noLoss, pending]

private theorem pending_publish {notifier : Notifier} (sound : notifier.Sound)
    (listens : Listens index notifier) :
    (notifier.publish .unlocked).pending index = notifier.pending index + 1 := by
  obtain ⟨next, subscribed⟩ := listens
  have behind : next ≤ notifier.published := sound.behind next (List.mem_of_getElem? subscribed)
  simp only [Notifier.pending, subscribed, Notifier.publish]
  omega

private theorem balanced_subscribe (listens : Listens index service.notifier) :
    Balanced index service.notifier (service.move info primitives .subscribe).2.notifier
      [(.subscribe, (service.move info primitives .subscribe).1)] := by
  obtain ⟨next, subscribed⟩ := listens
  have inside := Notifier.inside_of_subscribed subscribed
  have same : service.notifier.subscribe.2.subscribers[index]? = some (some next) := by
    rw [← subscribed]
    exact List.getElem?_append_left inside
  refine .of_quiet ⟨next, same⟩ rfl rfl ?_
  have pending : service.notifier.subscribe.2.pending index = service.notifier.pending index := by
    simp only [Notifier.pending, same, subscribed]
    rfl
  exact pending

private theorem balanced_request (sound : service.notifier.Sound)
    (listens : Listens index service.notifier) (request : UnlockRequest) :
    Balanced index service.notifier (service.move info primitives (.request request)).2.notifier
      [(.request request, (service.move info primitives (.request request)).1)] := by
  simp only [move, handle_eq]
  rcases Unlocking.unlock info primitives (.stored (some request.passphrase)) service.host with
    ⟨stop | unlocked, host⟩
  · exact .of_quiet listens rfl rfl rfl
  · exact .of_quiet listens rfl rfl (pending_publish sound listens)

private theorem balanced_look (sound : service.notifier.Sound)
    (listens : Listens index service.notifier) (other : Nat) :
    Balanced index service.notifier (service.move info primitives (.look other)).2.notifier
      [(.look other, (service.move info primitives (.look other)).1)] := by
  rcases looked : service.notifier.receive other with ⟨received, after⟩
  simp only [move, looked]
  by_cases subscribed : Listens other service.notifier
  · obtain ⟨next, subscribed⟩ := subscribed
    have inside := Notifier.inside_of_subscribed subscribed
    have finds := Notifier.finds_receive sound subscribed looked
    by_cases same : other = index
    · subst same
      have pending : service.notifier.pending other = service.notifier.published - next := by
        simp only [Notifier.pending, subscribed]
      cases finds with
      | nothing upToDate => exact .of_quiet listens rfl rfl rfl
      | event few some =>
        refine ⟨⟨_, Notifier.moveTo_subscribers inside⟩, 1, by simp [eventFor?], ?_⟩
        rw [Notifier.pending_moveTo inside]
        simp [missed, missedBy, isSuccess]
        omega
      | lagged many =>
        refine ⟨⟨_, Notifier.moveTo_subscribers inside⟩, 0, by simp [eventFor?], ?_⟩
        rw [Notifier.pending_moveTo inside]
        simp [missed, missedBy, isSuccess]
        omega
    · have stays (position : Nat) : Listens index (service.notifier.moveTo other position) := by
        obtain ⟨next, subscribed⟩ := listens
        refine ⟨next, ?_⟩
        rw [← subscribed]
        exact List.getElem?_set_ne same
      cases finds with
      | nothing upToDate => exact .of_quiet listens rfl rfl rfl
      | event few some =>
        exact .of_quiet (stays _) (by simp [eventFor?, same]) rfl
          (Notifier.pending_moveTo_of_ne same)
      | lagged many =>
        exact .of_quiet (stays _) rfl (by simp [missedBy, same])
          (Notifier.pending_moveTo_of_ne same)
  · rw [Notifier.receive_unsubscribed (not_exists.mp subscribed)] at looked
    cases looked
    exact .of_quiet listens rfl rfl rfl

variable (info primitives) in
theorem balanced_move (sound : service.notifier.Sound) (listens : Listens index service.notifier)
    (next : Move) :
    Balanced index service.notifier (service.move info primitives next).2.notifier
      [(next, (service.move info primitives next).1)] := by
  cases next with
  | subscribe => exact balanced_subscribe listens
  | request request => exact balanced_request sound listens request
  | look other => exact balanced_look sound listens other

variable (info primitives) in
theorem sound_move (sound : service.notifier.Sound) (next : Move) :
    (service.move info primitives next).2.notifier.Sound := by
  cases next with
  | subscribe => exact sound.subscribe
  | request request =>
    simp only [move, handle_eq]
    rcases Unlocking.unlock info primitives (.stored (some request.passphrase)) service.host with
      ⟨stop | unlocked, host⟩
    · exact sound
    · exact sound.publish
  | look other => exact sound.receive other

variable (info primitives) in
theorem sound_run (sound : service.notifier.Sound) (moves : List Move) :
    (run info primitives moves service).2.notifier.Sound := by
  induction moves generalizing service with
  | nil => exact sound
  | cons next rest ih => exact ih (sound_move info primitives sound next)

variable (info primitives) in
/-- The account of a subscriber balances at every moment. -/
theorem balanced_run (sound : service.notifier.Sound) (listens : Listens index service.notifier)
    (moves : List Move) :
    Balanced index service.notifier (run info primitives moves service).2.notifier
      (run info primitives moves service).1 := by
  induction moves generalizing service with
  | nil => exact ⟨listens, 0, rfl, by simp [run, missed]⟩
  | cons next rest ih =>
    have first := balanced_move info primitives sound listens next
    exact first.append (ih (sound_move info primitives sound next) first.listens)

/-! ### Answers -/

/-- In between the requests nothing has a part in the answers. -/
theorem answers_run (service : UnlockService σ) (moves : List Move) :
    ((run info primitives moves service).1.filterMap answer?,
        (run info primitives moves service).2.host) =
      unlockAll info primitives (moves.filterMap Move.request?) service.host := by
  induction moves generalizing service with
  | nil => rfl
  | cons next rest ih =>
    have later := ih (service.move info primitives next).2
    cases next with
    | subscribe => exact later
    | look index => exact later
    | request request =>
      simp only [run, List.filterMap_cons, Move.request?, unlockAll, answer?, move,
        handle_eq] at later ⊢
      rcases searched : Unlocking.unlock info primitives (.stored (some request.passphrase))
        service.host with ⟨stop | unlocked, host⟩
      · simp only [searched] at later
        simp only [← later, Except.map]
      · simp only [searched] at later
        simp only [← later, Except.map]

variable (info primitives) in
theorem published_run (service : UnlockService σ) (moves : List Move) :
    (run info primitives moves service).2.notifier.published =
      service.notifier.published + (run info primitives moves service).1.countP isSuccess := by
  induction moves generalizing service with
  | nil => rfl
  | cons next rest ih =>
    have later := ih (service.move info primitives next).2
    have first : (service.move info primitives next).2.notifier.published =
        service.notifier.published +
          (isSuccess (next, (service.move info primitives next).1)).toNat := by
      cases next with
      | subscribe => rfl
      | look index =>
        simp only [move, Notifier.receive]
        split
        · split
          · rfl
          · split <;> rfl
        · rfl
      | request request =>
        simp only [move, handle_eq]
        rcases Unlocking.unlock info primitives (.stored (some request.passphrase))
          service.host with ⟨stop | unlocked, host⟩ <;> rfl
    rw [run]
    simp only [later, first, List.countP_cons]
    cases isSuccess (next, (service.move info primitives next).1) with
    | false => simp
    | true =>
      simp
      omega

/-- However requests, subscriptions and looks follow each other, the answers are those of the
unlocks alone, and one and the same event was published for each success.  For everyone who
subscribes on the way the account balances: the events that it received, those that it was told
to have missed and those that are pending are as many as the successes since, and what is
pending is what it finds when it looks until nothing is left. -/
theorem unlock_notifications (info : InfoFile) (primitives : Primitives σ) (host : σ) :
    (∀ moves,
      let (seen, final) := run info primitives moves ⟨.empty, host⟩
      (seen.filterMap answer?, final.host) =
          unlockAll info primitives (moves.filterMap Move.request?) host ∧
        final.notifier.kept =
          List.replicate (min (seen.countP isSuccess) Notifier.capacity) .unlocked) ∧
    ∀ earlier later,
      let between := (run info primitives earlier ⟨.empty, host⟩).2
      let index := between.notifier.subscribers.length
      let (outcome, joined) := between.move info primitives .subscribe
      let (seen, final) := run info primitives later joined
      let pending := final.notifier.pending index
      outcome = .subscribed index ∧
        (∃ received, seen.filterMap (eventFor? index) = List.replicate received .unlocked ∧
          received + missed index seen + pending = seen.countP isSuccess) ∧
        Notifier.looks index ((Notifier.backlog pending).length + 1) final.notifier =
          Notifier.backlog pending ++ [.empty] := by
  constructor
  · intro moves
    refine ⟨answers_run _ moves, ?_⟩
    have sound : (run info primitives moves ⟨.empty, host⟩).2.notifier.Sound :=
      sound_run info primitives Notifier.sound_empty moves
    have published := published_run info primitives ⟨.empty, host⟩ moves
    rw [sound.kept, published]
    simp [Notifier.empty]
  · intro earlier later between index
    have sound : between.notifier.Sound :=
      sound_run info primitives Notifier.sound_empty earlier
    have joinedSound := sound_move info primitives sound .subscribe
    have subscribed : (between.move info primitives .subscribe).2.notifier.subscribers[index]? =
        some (some between.notifier.published) := by
      simp [move, Notifier.subscribe, index]
    have none : (between.move info primitives .subscribe).2.notifier.pending index = 0 := by
      simp only [Notifier.pending, subscribed]
      exact Nat.sub_self _
    obtain ⟨⟨next, listens⟩, received, events, balance⟩ :=
      balanced_run info primitives joinedSound ⟨_, subscribed⟩ later
    rw [none, Nat.zero_add] at balance
    have finalSound := sound_run info primitives joinedSound later
    exact ⟨rfl, ⟨received, events, balance⟩, Notifier.looks_pending finalSound listens⟩

end UnlockService

end Keywarden
