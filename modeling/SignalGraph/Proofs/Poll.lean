import SignalGraph.Poll.Unread
import SignalGraph.Proofs.Json.Equality
import Mathlib.Data.Seq.Basic
import Mathlib.Logic.Relation
import Mathlib.Tactic.IntervalCases

/-! What pollers tell of the answers they fetch.

Answers come one by one from a sequence that may be infinite. A job poller sends each status that
differs from the one before it, up to the first terminal one, through a channel of bounded size.
However fetching, sending and receiving take turns, nothing is lost, repeated or put in another
order. The count of unread notifications is always the last one fetched, and each change of it is
told.
-/

set_option autoImplicit false

namespace SignalGraph

open Stream' (Seq)

/-! ## Changes -/

section Changes

variable {α : Type} [BEq α]

/-- The items that differ from the one before them. -/
def changesAfter (before : Option α) : List α → List α
  | [] => []
  | item :: rest =>
    (if before == some item then [] else [item]) ++ changesAfter (some item) rest

/-- What came before matters only for what is equal to it. -/
theorem changesAfter_congr {before other : Option α} (items : List α)
    (same : ∀ item, (before == some item) = (other == some item)) :
    changesAfter before items = changesAfter other items := by
  cases items with
  | nil => rfl
  | cons item rest => rw [changesAfter, changesAfter, same item]

theorem changesAfter_append (before : Option α) (items more : List α) :
    changesAfter before (items ++ more) =
      changesAfter before items ++ changesAfter (items.getLast?.or before) more := by
  induction items generalizing before with
  | nil => rfl
  | cons item rest ih =>
    have last : (item :: rest).getLast?.or before = rest.getLast?.or (some item) := by
      rw [List.getLast?_cons]
      cases rest.getLast? <;> rfl
    rw [List.cons_append, changesAfter, changesAfter, ih, last, List.append_assoc]

end Changes

/-- What the successful fetches answered. -/
def Fetched.values {α : Type} (answers : List (Fetched α)) : List α :=
  answers.filterMap Except.toOption

theorem Fetched.values_append {α : Type} (answers more : List (Fetched α)) :
    values (answers ++ more) = values answers ++ values more :=
  List.filterMap_append

theorem take_succ_of_get? {α : Type} {items : Seq α} {place : Nat} {item : α}
    (found : items.get? place = some item) :
    items.take (place + 1) = items.take place ++ [item] := by
  induction place generalizing items with
  | zero =>
    cases items with
    | nil => cases found
    | cons first rest =>
      rw [Seq.get?_cons_zero, Option.some.injEq] at found
      rw [Seq.take_succ_cons, Seq.take_zero, Seq.take_zero, found, List.nil_append]
  | succ place ih =>
    cases items with
    | nil => cases found
    | cons first rest =>
      rw [Seq.get?_cons_succ] at found
      rw [Seq.take_succ_cons, Seq.take_succ_cons, ih found, List.cons_append]

/-! ## The watch of a job -/

instance : PartialEquivBEq JobStatus where
  symm {first second} same := by
    cases first <;> cases second
    case running.running first second =>
      exact (BEq.symm same : (second == first) = true)
    case failed.failed first second =>
      exact (BEq.symm same : (second == first) = true)
    all_goals exact same
  trans {first second third} same next := by
    cases first <;> cases second
    case running.running first second =>
      cases third with
      | running third => exact (BEq.trans same next : (first == third) = true)
      | _ => exact next
    case failed.failed first second =>
      cases third with
      | failed third => exact (BEq.trans same next : (first == third) = true)
      | _ => exact next
    case pending.pending => exact next
    case completed.completed => exact next
    all_goals exact Bool.noConfusion same

/-- The job has ended by this answer. -/
def endsJob : Fetched JobStatus → Bool
  | .ok status => status.isTerminal
  | .error _ => false

namespace JobWatch

variable {watch : JobWatch} {answer : Fetched JobStatus}

theorem tick_published (watch : JobWatch) (answer : Fetched JobStatus) :
    (watch.tick answer).2.toList = changesAfter watch.last (Fetched.values [answer]) := by
  cases answer with
  | error => rfl
  | ok status =>
    cases same : watch.last == some status <;>
      simp [tick, Fetched.values, Except.toOption, changesAfter, same]

/-- An equal status may stand for the one fetched last: equal to either is equal to both. -/
theorem tick_last (watch : JobWatch) (answer : Fetched JobStatus) (status : JobStatus) :
    ((watch.tick answer).1.last == some status) =
      ((Fetched.values [answer]).getLast?.or watch.last == some status) := by
  cases answer with
  | error => rfl
  | ok fetched =>
    cases same : watch.last == some fetched with
    | false => simp [tick, Fetched.values, Except.toOption, same]
    | true =>
      simp only [tick, same, if_true]
      exact BEq.congr_left same

theorem tick_ended (running : watch.ended = false) (answer : Fetched JobStatus) :
    (watch.tick answer).1.ended = endsJob answer := by
  cases answer with
  | error => exact running
  | ok status =>
    cases same : watch.last == some status <;> simp [tick, endsJob, same]

theorem follow_of_ended (ended : watch.ended = true) (answers : List (Fetched JobStatus)) :
    watch.follow answers = ⟨[], true, answers⟩ := by
  cases answers <;> simp [follow, ended]

theorem follow_cons (running : watch.ended = false) (rest : List (Fetched JobStatus)) :
    watch.follow (answer :: rest) =
      { (watch.tick answer).1.follow rest with
        published := (watch.tick answer).2.toList ++
          ((watch.tick answer).1.follow rest).published } := by
  simp [follow, running]

/-- Answers are fetched up to the first by which the job ends. -/
theorem follow_eq (running : watch.ended = false) (answers : List (Fetched JobStatus)) :
    watch.follow answers =
      { published := changesAfter watch.last
          (Fetched.values (answers.take (answers.findIdx endsJob + 1)))
        ended := answers.any endsJob
        left := answers.drop (answers.findIdx endsJob + 1) } := by
  induction answers generalizing watch with
  | nil => simp [follow, running, Fetched.values, changesAfter]
  | cons answer rest ih =>
    rw [follow_cons running, tick_published]
    cases ends : endsJob answer with
    | true =>
      rw [follow_of_ended ((tick_ended running answer).trans ends)]
      simp [List.findIdx_cons, ends]
    | false =>
      have split : Fetched.values ((answer :: rest).take (rest.findIdx endsJob + 1 + 1)) =
          Fetched.values [answer] ++ Fetched.values (rest.take (rest.findIdx endsJob + 1)) :=
        Fetched.values_append [answer] _
      have place : (answer :: rest).findIdx endsJob = rest.findIdx endsJob + 1 := by
        rw [List.findIdx_cons, ends, cond_false]
      rw [ih ((tick_ended running answer).trans ends), place, split, changesAfter_append,
        changesAfter_congr _ (watch.tick_last answer), List.any_cons, ends, Bool.false_or,
        List.drop_succ_cons]

end JobWatch

/-! ## The channel of a job -/

/-- A job poller, the channel it sends into, and what has been received from there. -/
structure JobFeed where
  watch : JobWatch := {}
  /-- How many answers were fetched. -/
  asked : Nat := 0
  /-- A status that is to be sent as soon as there is room for it. -/
  waiting : Option JobStatus := none
  channel : List JobStatus := []
  received : List JobStatus := []

namespace JobFeed

def capacity : Nat := 16

/-- What can happen next while there is a receiver and nobody stops the poller. Nothing is fetched
while a status waits to be sent. -/
inductive Step (answers : Seq (Fetched JobStatus)) (feed : JobFeed) : JobFeed → Prop where
  | fetch {answer : Fetched JobStatus} (running : feed.watch.ended = false)
      (free : feed.waiting = none) (answered : answers.get? feed.asked = some answer) :
      Step answers feed { feed with
        watch := (feed.watch.tick answer).1
        asked := feed.asked + 1
        waiting := (feed.watch.tick answer).2 }
  | send {status : JobStatus} (waiting : feed.waiting = some status)
      (room : feed.channel.length < capacity) :
      Step answers feed { feed with waiting := none, channel := feed.channel ++ [status] }
  | receive {status : JobStatus} {rest : List JobStatus}
      (first : feed.channel = status :: rest) :
      Step answers feed { feed with channel := rest, received := feed.received ++ [status] }

/-- Steps in any order. -/
abbrev Runs (answers : Seq (Fetched JobStatus)) : JobFeed → JobFeed → Prop :=
  Relation.ReflTransGen (Step answers)

/-- The changes among the statuses fetched so far. -/
def due (answers : Seq (Fetched JobStatus)) (asked : Nat) : List JobStatus :=
  changesAfter none (Fetched.values (answers.take asked))

/-- None of the first answers ends the job. -/
def Open (answers : Seq (Fetched JobStatus)) (asked : Nat) : Prop :=
  ∀ place < asked, ∀ answer, answers.get? place = some answer → endsJob answer = false

/-- What every step keeps. -/
structure Sound (answers : Seq (Fetched JobStatus)) (feed : JobFeed) : Prop where
  sent : feed.received ++ feed.channel ++ feed.waiting.toList = due answers feed.asked
  last : ∀ status, (feed.watch.last == some status) =
    ((Fetched.values (answers.take feed.asked)).getLast? == some status)
  running : feed.watch.ended = false ↔ Open answers feed.asked
  /-- Only the last answer that was fetched may end the job. -/
  once : Open answers (feed.asked - 1)

variable {answers : Seq (Fetched JobStatus)} {feed next later : JobFeed}

theorem sound_start (answers : Seq (Fetched JobStatus)) : Sound answers {} where
  sent := rfl
  last _ := rfl
  running := ⟨fun _ _ below => absurd below (Nat.not_lt_zero _), fun _ => rfl⟩
  once _ below := absurd below (Nat.not_lt_zero _)

theorem open_succ {answer : Fetched JobStatus} {asked : Nat}
    (answered : answers.get? asked = some answer) :
    Open answers (asked + 1) ↔ Open answers asked ∧ endsJob answer = false := by
  constructor
  · intro unended
    exact ⟨fun place below => unended place (Nat.lt_succ_of_lt below),
      unended asked (Nat.lt_succ_self asked) answer answered⟩
  · rintro ⟨before, here⟩ place below other found
    rcases Nat.lt_succ_iff_lt_or_eq.mp below with below | rfl
    · exact before place below other found
    · rw [answered, Option.some.injEq] at found
      exact found ▸ here

theorem Sound.step (sound : feed.Sound answers) (step : Step answers feed next) :
    next.Sound answers := by
  cases step with
  | @fetch answer running free answered =>
    have values : Fetched.values (answers.take (feed.asked + 1)) =
        Fetched.values (answers.take feed.asked) ++ Fetched.values [answer] := by
      rw [take_succ_of_get? answered, Fetched.values_append]
    constructor
    case sent =>
      -- Nothing was waiting, so that all that was due before has been sent.
      have before := sound.sent
      rw [free, Option.toList_none, List.append_nil] at before
      rw [due, values, changesAfter_append, Option.or_none,
        ← changesAfter_congr _ sound.last, ← feed.watch.tick_published answer, before, due]
    case last =>
      intro status
      rw [feed.watch.tick_last answer, values, List.getLast?_append]
      cases (Fetched.values [answer]).getLast? with
      | none => exact sound.last status
      | some last => rfl
    case running =>
      rw [open_succ answered, JobWatch.tick_ended running]
      exact ⟨fun here => ⟨sound.running.mp running, here⟩, And.right⟩
    case once => exact sound.running.mp running
  | @send status waiting room =>
    refine ⟨?_, sound.last, sound.running, sound.once⟩
    have before := sound.sent
    rw [waiting] at before
    simpa using before
  | @receive status rest first =>
    refine ⟨?_, sound.last, sound.running, sound.once⟩
    have before := sound.sent
    rw [first] at before
    simpa using before

theorem Sound.runs (sound : feed.Sound answers) (runs : Runs answers feed later) :
    later.Sound answers := by
  induction runs with
  | refl => exact sound
  | tail _ step ih => exact ih.step step

theorem runs_receive (answers : Seq (Fetched JobStatus)) (feed : JobFeed) :
    Runs answers feed { feed with channel := [], received := feed.received ++ feed.channel } := by
  obtain ⟨watch, asked, waiting, channel, received⟩ := feed
  induction channel generalizing received with
  | nil => rw [List.append_nil]
  | cons status rest ih =>
    have more := ih (received ++ [status])
    rw [List.append_assoc, List.singleton_append] at more
    exact .head (.receive rfl) more

/-- The receiver can catch up before anything else is fetched. -/
theorem Sound.drained (sound : feed.Sound answers) :
    ∃ later, Runs answers feed later ∧ later.asked = feed.asked ∧ later.waiting = none ∧
      later.received = due answers feed.asked := by
  have received := runs_receive answers feed
  cases waiting : feed.waiting with
  | none =>
    refine ⟨_, received, rfl, waiting, ?_⟩
    rw [← sound.sent, waiting, Option.toList_none, List.append_nil]
  | some status =>
    have sent := received.tail (.send waiting (by decide : 0 < capacity))
    refine ⟨_, sent.tail (.receive rfl), rfl, rfl, ?_⟩
    rw [← sound.sent, waiting, Option.toList_some]

/-- Whatever has happened, the poller can go on until the job ends, and all that is due be
received. -/
theorem Sound.goesOn (sound : feed.Sound answers) {asked : Nat} (further : feed.asked ≤ asked)
    (answered : ∀ place < asked, (answers.get? place).isSome = true)
    (unended : Open answers (asked - 1)) :
    ∃ later, Runs answers feed later ∧ later.asked = asked ∧ later.waiting = none ∧
      later.received = due answers asked := by
  induction asked, further using Nat.le_induction with
  | base => exact sound.drained
  | succ asked _ ih =>
    have before : Open answers (asked - 1) := fun place below =>
      unended place (Nat.lt_of_lt_of_le below (Nat.sub_le asked 1))
    obtain ⟨middle, runs, rfl, free, -⟩ :=
      ih (fun place below => answered place (Nat.lt_succ_of_lt below)) before
    have reached := sound.runs runs
    obtain ⟨answer, found⟩ := Option.isSome_iff_exists.mp (answered _ (Nat.lt_succ_self _))
    have fetched := Step.fetch (reached.running.mpr unended) free found
    obtain ⟨later, drained, asked, waiting, received⟩ := (reached.step fetched).drained
    exact ⟨later, (runs.tail fetched).trans drained, asked, waiting, received⟩

end JobFeed

/-! ## The count of unread notifications -/

namespace UnreadWatch

variable {watch : UnreadWatch}

/-- The count that is held after the answers: the last one fetched. -/
def heldAfter (start : Nat) (answers : List (Fetched Nat)) : Nat :=
  (Fetched.values answers).getLast?.getD start

theorem heldAfter_cons (start : Nat) (answer : Fetched Nat) (rest : List (Fetched Nat)) :
    heldAfter start (answer :: rest) = heldAfter (heldAfter start [answer]) rest := by
  rw [heldAfter, ← List.singleton_append, Fetched.values_append, List.getLast?_append, heldAfter,
    heldAfter]
  cases (Fetched.values rest).getLast? <;> rfl

/-- The answer is a count other than the one held. -/
def Changes (held : Nat) (answer : Fetched Nat) : Prop := ∃ count, answer = .ok count ∧ count ≠ held

theorem tick_count (watch : UnreadWatch) (answer : Fetched Nat) :
    (watch.tick true answer).1.count = heldAfter watch.count [answer] := by
  cases answer <;> rfl

theorem tick_told (watch : UnreadWatch) (answer : Fetched Nat) :
    (watch.tick true answer).2 = true ↔ Changes watch.count answer := by
  cases answer <;> simp [tick, Changes]

theorem follow_final (watch : UnreadWatch) (answers : List (Fetched Nat)) :
    (watch.follow answers).2.count = heldAfter watch.count answers ∧
      (watch.ended = false → (watch.follow answers).2.ended = false) := by
  induction answers generalizing watch with
  | nil => exact ⟨rfl, id⟩
  | cons answer rest ih =>
    have running : (watch.tick true answer).1.ended = false := by cases answer <;> rfl
    have final := ih (watch.tick true answer).1
    rw [tick_count] at final
    exact ⟨final.1.trans (heldAfter_cons _ answer rest).symm, fun _ => final.2 running⟩

theorem length_follow (watch : UnreadWatch) (answers : List (Fetched Nat)) :
    (watch.follow answers).1.length = answers.length := by
  induction answers generalizing watch with
  | nil => rfl
  | cons answer rest ih => exact congrArg (· + 1) (ih _)

/-- What is seen after each answer. -/
theorem follow_seen (watch : UnreadWatch) {answers : List (Fetched Nat)} {place : Nat}
    {answer : Fetched Nat} (found : answers[place]? = some answer) :
    ∃ told, (watch.follow answers).1[place]? =
        some (told, heldAfter watch.count (answers.take (place + 1))) ∧
      (told = true ↔ Changes (heldAfter watch.count (answers.take place)) answer) := by
  induction answers generalizing watch place with
  | nil => cases found
  | cons first rest ih =>
    cases place with
    | zero =>
      rw [List.getElem?_cons_zero, Option.some.injEq] at found
      subst found
      exact ⟨_, congrArg (fun count => some (_, count)) (watch.tick_count first),
        watch.tick_told first⟩
    | succ place =>
      obtain ⟨told, seen, changes⟩ := ih (watch.tick true first).1 found
      rw [tick_count, ← heldAfter_cons] at seen changes
      exact ⟨told, seen, changes⟩

end UnreadWatch

/-! ## Both pollers -/

/-- How a job is reported, whatever has been fetched, sent and received so far. -/
structure JobFeed.Delivers (answers : Seq (Fetched JobStatus)) (feed : JobFeed) : Prop where
  /-- What has been received, and what is still on its way, are the changes in their order. -/
  sent : feed.received ++ feed.channel ++ feed.waiting.toList = due answers feed.asked
  /-- Nothing is fetched after an answer that ends the job. -/
  once : Open answers (feed.asked - 1)
  /-- Until then each answer can be fetched, and all changes up to it be received. -/
  onward : ∀ asked, feed.asked ≤ asked → (∀ place < asked, (answers.get? place).isSome = true) →
    Open answers (asked - 1) →
    ∃ later, Runs answers feed later ∧ later.asked = asked ∧ later.received = due answers asked

/-- What the listener of the unread count is told after each answer. -/
structure UnreadWatch.Refreshes (answers : List (Fetched Nat)) : Prop where
  length : (follow {} answers).1.length = answers.length
  seen : ∀ place answer, answers[place]? = some answer →
    ∃ told, (follow {} answers).1[place]? = some (told, heldAfter 0 (answers.take (place + 1))) ∧
      (told = true ↔ Changes (heldAfter 0 (answers.take place)) answer)
  count : (follow {} answers).2.count = heldAfter 0 answers
  running : (follow {} answers).2.ended = false

/-- Of a finite or infinite sequence of answers, a job poller fetches those up to the first by which
the job ends, and sends the statuses among them that differ from the one before, in order and each
once. The unread count held after each answer is the last one fetched, and every change is told. -/
theorem publishes_changes :
    (∀ (answers : Seq (Fetched JobStatus)) (feed : JobFeed), JobFeed.Runs answers {} feed →
      feed.Delivers answers) ∧
    (∀ (answers : Seq (Fetched JobStatus)) (n : Nat),
      let given := answers.take n
      let fetched := given.findIdx endsJob + 1
      JobWatch.follow {} given =
        { published := changesAfter none (Fetched.values (given.take fetched))
          ended := given.any endsJob
          left := given.drop fetched }) ∧
    ∀ (answers : Seq (Fetched Nat)) (n : Nat), UnreadWatch.Refreshes (answers.take n) := by
  refine ⟨fun answers feed runs => ?delivers, fun answers n => ?follows,
    fun answers n => ?refreshes⟩
  case delivers =>
    have sound := (JobFeed.sound_start answers).runs runs
    refine ⟨sound.sent, sound.once, fun asked further answered unended => ?_⟩
    obtain ⟨later, runs, asked, -, received⟩ := sound.goesOn further answered unended
    exact ⟨later, runs, asked, received⟩
  case follows => exact JobWatch.follow_eq rfl _
  case refreshes =>
    obtain ⟨count, running⟩ := UnreadWatch.follow_final {} (answers.take n)
    exact ⟨UnreadWatch.length_follow {} _, fun _ _ found => UnreadWatch.follow_seen {} found, count,
      running rfl⟩

/-- A failed fetch between equal statuses, a status that has to wait, and an answer past the end. -/
theorem publishes_changes_terminal :
    let half : JobStatus := .running (some 0.5)
    let answers : Seq (Fetched JobStatus) := Seq.ofList
      [.ok .pending, .error "hiccup", .ok .pending, .ok half, .ok .completed, .ok .pending]
    let feed : JobFeed :=
      { watch := ⟨some half, false⟩, asked := 4, waiting := some half, channel := [.pending] }
    JobFeed.Runs answers {} feed ∧
      (∃ later, JobFeed.Runs answers feed later ∧ later.asked = 5 ∧
        later.received = [.pending, half, .completed]) ∧
      ∀ later, JobFeed.Runs answers {} later → later.asked ≤ 5 := by
  intro half answers feed
  obtain ⟨delivers, -, -⟩ := publishes_changes
  let sent : JobFeed := { watch := ⟨some .pending, false⟩, asked := 1, channel := [.pending] }
  have begun : JobFeed.Runs answers {} sent :=
    (Relation.ReflTransGen.refl.tail (.fetch rfl rfl rfl)).tail (.send rfl (by decide))
  have failed : JobFeed.Step answers sent { sent with asked := 2 } :=
    @JobFeed.Step.fetch answers _ (.error "hiccup") rfl rfl rfl
  have equal : JobFeed.Step answers { sent with asked := 2 } { sent with asked := 3 } :=
    @JobFeed.Step.fetch answers _ (.ok .pending) rfl rfl rfl
  have changed : JobFeed.Step answers { sent with asked := 3 } feed :=
    @JobFeed.Step.fetch answers _ (.ok half) rfl rfl rfl
  have runs : JobFeed.Runs answers {} feed := ((begun.tail failed).tail equal).tail changed
  have unended : JobFeed.Open answers 4 := by
    intro place below answer found
    interval_cases place <;> cases found <;> rfl
  refine ⟨runs, ?_, fun later reached => ?_⟩
  · have answered : ∀ place < 5, (answers.get? place).isSome = true := by decide
    exact (delivers answers feed runs).onward 5 (by decide) answered unended
  · refine Nat.le_of_not_lt fun more => ?_
    have ended := (delivers answers later reached).once 4 (Nat.lt_sub_of_add_lt more) _ rfl
    cases ended

end SignalGraph
