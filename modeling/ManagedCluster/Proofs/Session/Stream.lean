import Mathlib.Data.Nat.Find
import ManagedCluster.Proofs.Session.Operations

/-! # Waiting on a stream of answers

Where looks at an operation are answered from a stream, and where the clock moves by sleeping only,
it can be said in advance when waiting ends, and how: after the first look at which one of three
things holds. The program is run against this reference. Waiting whose deadline no clock can show
does not get as far as that.
-/

namespace ManagedCluster

/-- The time of the clock, and how many answers of the stream are used up. -/
structure Watch where
  time : Nat
  looks : Nat

namespace Watch

def sleep (watch : Watch) (duration : Duration) : Watch :=
  { watch with time := watch.time + duration.nanos }

def look (watch : Watch) : Watch := { watch with looks := watch.looks + 1 }

end Watch

/-- A world that answers looks from a stream and nothing else, with a clock that moves by sleeping
only. -/
def streamed (answers : Nat → Except ApiError Operation) :
    World Request Request.Answer Watch where
  answer
    | .getOperation _, watch => (answers watch.looks, watch.look)
    | _, watch => (.error (.notFound ""), watch)
  readClock watch := (watch.time, watch)
  sleep duration watch := watch.sleep duration

/-- The events can be those of a world with this stream of answers. -/
def Follows (answers : Nat → Except ApiError Operation) (watch : Watch) : Events → Prop
  | [] => True
  | .clockRead time :: rest => time = watch.time ∧ Follows answers watch rest
  | .slept duration :: rest => Follows answers (watch.sleep duration) rest
  | .answered (.getOperation _) answer :: rest =>
    answer = answers watch.looks ∧ Follows answers watch.look rest
  | .answered _ _ :: rest => Follows answers watch rest

theorem run_follows {α : Type} (answers : Nat → Except ApiError Operation) (program : Session α)
    (watch : Watch) : Follows answers watch (program.run (streamed answers) watch).events := by
  induction program generalizing watch with
  | done result => trivial
  | send request next ih =>
      cases request with
      | getOperation name => exact ⟨rfl, ih _ _⟩
      | createCluster | patchCluster | getCluster | deleteCluster | listObjects | deleteObject |
        deleteBucket => exact ih _ _
  | readClock next ih => exact ⟨rfl, ih _ _⟩
  | sleep duration next ih => exact ih _
  | cutOff => trivial

/-- How many answers in a row are rate limited with this one, if so many were before it. -/
def limitedWith (before : Nat) : Except ApiError Operation → Nat
  | .error (.rateLimited _) => before + 1
  | _ => 0

/-- How many of the first answers are rate limited, from the last of them back to one that is
not. -/
def limitedAfter (answers : Nat → Except ApiError Operation) : Nat → Nat
  | 0 => 0
  | looks + 1 => limitedWith (limitedAfter answers looks) (answers looks)

/-- The operation as the last good one of the first answers reports it. -/
def knownAfter (operation : Operation) (answers : Nat → Except ApiError Operation) :
    Nat → Operation
  | 0 => operation
  | looks + 1 => (answers looks).toOption.getD (knownAfter operation answers looks)

section NextAnswer

variable {operation next : Operation} {answers : Nat → Except ApiError Operation} {looks : Nat}

theorem limitedAfter_succ_of_limited {message : String}
    (answer : answers looks = .error (.rateLimited message)) :
    limitedAfter answers (looks + 1) = limitedAfter answers looks + 1 := by
  rw [limitedAfter, answer, limitedWith]

theorem limitedAfter_succ_of_seen (answer : answers looks = .ok next) :
    limitedAfter answers (looks + 1) = 0 := by
  simp only [limitedAfter, answer, limitedWith]

theorem knownAfter_succ_of_seen (answer : answers looks = .ok next) :
    knownAfter operation answers (looks + 1) = next := by
  simp [knownAfter, answer, Except.toOption]

theorem knownAfter_succ_of_error {error : ApiError} (answer : answers looks = .error error) :
    knownAfter operation answers (looks + 1) = knownAfter operation answers looks := by
  simp [knownAfter, answer, Except.toOption]

end NextAnswer

/-- If this many intervals begin before the span is over, they are no more than the span divided by
the interval, rounded up. -/
theorem Duration.le_div_of_begun {span interval : Duration} {count : Nat}
    (positive : 0 < interval.nanos)
    (begun : ∀ before, count = before + 1 → before * interval.nanos < span.nanos) :
    count ≤ (span.nanos + interval.nanos - 1) / interval.nanos := by
  refine (Nat.le_div_iff_mul_le positive).mpr ?_
  cases count with
  | zero => omega
  | succ before =>
      have early := begun before rfl
      rw [Nat.succ_mul]
      omega

/-- How waiting ends, and after how many looks. -/
structure WaitEnd where
  looks : Nat
  result : Except PollError Operation

namespace PollPolicy

variable (policy : PollPolicy) (description : String) (operation : Operation)
  (answers : Nat → Except ApiError Operation)

/-- The error of the next answer, if it is final. One that is rate limited is final if it is the
last that is allowed in a row. -/
def refusal? (looks : Nat) : Option ApiError :=
  match answers looks with
  | .ok _ => none
  | .error (.rateLimited message) =>
    if limitedAfter answers (looks + 1) = max policy.retry.maxAttempts.toNat 1 then
      some (.rateLimited message)
    else none
  | .error error => some error

/-- How waiting ends if it goes on up to these looks and no further: the operation is done, or the
time is over, or the next look is refused. -/
def endAfter? (looks : Nat) : Option WaitEnd :=
  let known := knownAfter operation answers looks
  if known.done then
    match known.error with
    | none => some ⟨looks, .ok known⟩
    | some status => some ⟨looks, .error (.failed description known.name status)⟩
  else if policy.timeout.nanos ≤ looks * policy.interval.nanos then
    some ⟨looks, .error (.timedOut description known.name policy.timeout)⟩
  else
    (policy.refusal? answers looks).map fun error =>
      ⟨looks + 1, .error (.poll description known.name error)⟩

/-- Waiting ends in this way after these looks, and not before. -/
structure EndsFirst (looks : Nat) (ending : WaitEnd) : Prop where
  ends : policy.endAfter? description operation answers looks = some ending
  first : ∀ earlier < looks, policy.endAfter? description operation answers earlier = none

/-- What the clock shows after these looks. -/
def timeAfter (start looks : Nat) : Nat :=
  start + min (looks * policy.interval.nanos) policy.timeout.nanos

/-- The look after these. The sleep before it is as long as the interval, or as the time that is
left. -/
def lookAfter (start looks : Nat) : Events := [
  .clockRead (policy.timeAfter start looks),
  .slept (policy.interval.atMost
    (start + policy.timeout.nanos - policy.timeAfter start looks)),
  .answered (.getOperation (knownAfter operation answers looks).name) (answers looks)]

/-- What happens after these looks, if waiting is to end in this way after all of its looks. The
clock is read again unless the last look is refused. -/
def eventsFrom (start stop : Nat) (ending : WaitEnd) (looks : Nat) : Events :=
  (List.range' looks (ending.looks - looks)).flatMap (policy.lookAfter operation answers start) ++
    if ending.looks = stop then [.clockRead (policy.timeAfter start stop)] else []

variable {policy description operation answers} {start looks left stop : Nat} {ending : WaitEnd}

section Refusal

variable {next : Operation} {message : String} {error : ApiError}

theorem refusal?_of_seen (answer : answers looks = .ok next) :
    policy.refusal? answers looks = none := by
  simp [refusal?, answer]

theorem refusal?_of_limited (answer : answers looks = .error (.rateLimited message))
    (again : limitedAfter answers (looks + 1) < max policy.retry.maxAttempts.toNat 1) :
    policy.refusal? answers looks = none := by
  simp [refusal?, answer, Nat.ne_of_lt again]

theorem refusal?_of_final (answer : answers looks = .error error)
    (last : ∀ message, error = .rateLimited message →
      limitedAfter answers (looks + 1) = max policy.retry.maxAttempts.toNat 1) :
    policy.refusal? answers looks = some error := by
  cases error with
  | rateLimited message => simp [refusal?, answer, last message rfl]
  | notFound resource => simp [refusal?, answer]
  | rejected code message => simp [refusal?, answer]

end Refusal

section EndAfter

variable (isDone : (knownAfter operation answers looks).done = true)
  (pending : (knownAfter operation answers looks).done = false)
  (early : looks * policy.interval.nanos < policy.timeout.nanos)

include isDone in
theorem endAfter?_of_completed (noError : (knownAfter operation answers looks).error = none) :
    policy.endAfter? description operation answers looks =
      some ⟨looks, .ok (knownAfter operation answers looks)⟩ := by
  simp [endAfter?, isDone, noError]

include isDone in
theorem endAfter?_of_failed {status : Status}
    (isError : (knownAfter operation answers looks).error = some status) :
    policy.endAfter? description operation answers looks = some ⟨looks,
      .error (.failed description (knownAfter operation answers looks).name status)⟩ := by
  simp [endAfter?, isDone, isError]

include pending in
theorem endAfter?_of_late (late : policy.timeout.nanos ≤ looks * policy.interval.nanos) :
    policy.endAfter? description operation answers looks = some ⟨looks,
      .error (.timedOut description (knownAfter operation answers looks).name policy.timeout)⟩ := by
  simp [endAfter?, pending, late]

include pending early in
theorem endAfter?_of_refused {error : ApiError}
    (refused : policy.refusal? answers looks = some error) :
    policy.endAfter? description operation answers looks = some ⟨looks + 1,
      .error (.poll description (knownAfter operation answers looks).name error)⟩ := by
  simp [endAfter?, pending, Nat.not_le.mpr early, refused]

end EndAfter

/-- Waiting goes on after these looks exactly if the operation is not done, there is time left, and
the next look is not refused. -/
theorem endAfter?_eq_none_iff :
    policy.endAfter? description operation answers looks = none ↔
      (knownAfter operation answers looks).done = false ∧
        looks * policy.interval.nanos < policy.timeout.nanos ∧
        policy.refusal? answers looks = none := by
  unfold endAfter?
  cases isDone : (knownAfter operation answers looks).done with
  | true => cases isError : (knownAfter operation answers looks).error <;> simp [isDone, isError]
  | false =>
      by_cases late : policy.timeout.nanos ≤ looks * policy.interval.nanos
      · simp [isDone, late, Nat.not_lt.mpr late]
      · simp [isDone, late, Nat.lt_of_not_le late]

theorem limitedAfter_lt (going : ∀ earlier < looks, policy.refusal? answers earlier = none) :
    limitedAfter answers looks < max policy.retry.maxAttempts.toNat 1 := by
  induction looks with
  | zero =>
      rw [limitedAfter]
      omega
  | succ looks ih =>
      have before := ih fun earlier less => going earlier (Nat.lt_succ_of_lt less)
      have here := going looks (Nat.lt_succ_self looks)
      cases answer : answers looks with
      | ok seen =>
          rw [limitedAfter_succ_of_seen answer]
          omega
      | error error =>
          -- An error that is no refusal is a rate limit, and not the last that is allowed.
          refine Nat.lt_of_not_le fun most => ?_
          refine nomatch here.symm.trans (refusal?_of_final answer ?_)
          rintro message rfl
          have next := limitedAfter_succ_of_limited answer
          omega

theorem timeAfter_succ (early : looks * policy.interval.nanos < policy.timeout.nanos) :
    policy.timeAfter start looks + (policy.interval.atMost
      (start + policy.timeout.nanos - policy.timeAfter start looks)).nanos =
    policy.timeAfter start (looks + 1) := by
  simp only [timeAfter, Duration.atMost, Nat.succ_mul]
  omega

theorem deadline_le_timeAfter_iff :
    start + policy.timeout.nanos ≤ policy.timeAfter start looks ↔
      policy.timeout.nanos ≤ looks * policy.interval.nanos := by
  unfold timeAfter
  omega

theorem timeAfter_lt_iff :
    policy.timeAfter start looks < start + policy.timeout.nanos ↔
      looks * policy.interval.nanos < policy.timeout.nanos := by
  unfold timeAfter
  omega

/-- After one more round, the clock shows the time after one more look. -/
theorem follows_of_round {name : String} {answer : Except ApiError Operation} {time : Nat}
    {events : Events} (early : time < start + policy.timeout.nanos)
    (follows : Follows answers ⟨policy.timeAfter start looks, looks⟩
      (.clockRead time :: .slept (policy.interval.atMost (start + policy.timeout.nanos - time)) ::
        .answered (.getOperation name) answer :: events)) :
    time = policy.timeAfter start looks ∧ looks * policy.interval.nanos < policy.timeout.nanos ∧
      answers looks = answer ∧
      Follows answers ⟨policy.timeAfter start (looks + 1), looks + 1⟩ events := by
  obtain ⟨rfl, isNext, follows⟩ := follows
  have early := timeAfter_lt_iff.mp early
  simp only [Watch.sleep, Watch.look, timeAfter_succ early] at follows
  exact ⟨rfl, early, isNext.symm, follows⟩

namespace EndsFirst

section Reference

variable (reference : policy.EndsFirst description operation answers stop ending)

include reference

theorem eq_of_endAfter {other : WaitEnd}
    (ends : policy.endAfter? description operation answers looks = some other)
    (inTime : looks ≤ stop) : stop = looks ∧ ending = other := by
  rcases Nat.lt_or_eq_of_le inTime with earlier | rfl
  · cases (reference.first looks earlier).symm.trans ends
  · exact ⟨rfl, Option.some.inj (reference.ends.symm.trans ends)⟩

theorem lt_of_going (pending : (knownAfter operation answers looks).done = false)
    (early : looks * policy.interval.nanos < policy.timeout.nanos)
    (unrefused : policy.refusal? answers looks = none) (inTime : looks ≤ stop) : looks < stop := by
  refine Nat.lt_of_le_of_ne inTime ?_
  rintro rfl
  cases (endAfter?_eq_none_iff.mpr ⟨pending, early, unrefused⟩).symm.trans reference.ends

theorem limited_lt (inTime : looks ≤ stop) :
    limitedAfter answers looks < max policy.retry.maxAttempts.toNat 1 := by
  apply limitedAfter_lt
  intro earlier less
  obtain ⟨-, -, unrefused⟩ := endAfter?_eq_none_iff.mp (reference.first earlier (by omega))
  exact unrefused

/-- The last look is the one that is refused, or none is. -/
theorem looks_eq : ending.looks = stop ∨
    ending.looks = stop + 1 ∧ stop * policy.interval.nanos < policy.timeout.nanos := by
  have ends := reference.ends
  unfold endAfter? at ends
  simp only at ends
  split at ends
  · split at ends <;> cases ends <;> exact .inl rfl
  · split at ends
    · cases ends
      exact .inl rfl
    · next early =>
      obtain ⟨error, -, rfl⟩ := Option.map_eq_some_iff.mp ends
      exact .inr ⟨rfl, Nat.lt_of_not_le early⟩

/-- There is time left before every look. -/
theorem early_of_lt (less : looks < ending.looks) :
    looks * policy.interval.nanos < policy.timeout.nanos := by
  rcases Nat.lt_or_ge looks stop with earlier | last
  · obtain ⟨-, early, -⟩ := endAfter?_eq_none_iff.mp (reference.first looks earlier)
    exact early
  · rcases reference.looks_eq with same | ⟨next, early⟩
    · omega
    · obtain rfl : looks = stop := by omega
      exact early

theorem looks_le (positive : 0 < policy.interval.nanos) : ending.looks ≤
    (policy.timeout.nanos + policy.interval.nanos - 1) / policy.interval.nanos := by
  refine Duration.le_div_of_begun positive fun before count => ?_
  exact reference.early_of_lt (by omega)

theorem eventsFrom_eq (inTime : looks < stop) :
    policy.eventsFrom operation answers start stop ending looks =
      policy.lookAfter operation answers start looks ++
        policy.eventsFrom operation answers start stop ending (looks + 1) := by
  have more : ending.looks - looks = ending.looks - (looks + 1) + 1 := by
    have := reference.looks_eq
    omega
  rw [eventsFrom, eventsFrom, more, List.range'_succ, List.flatMap_cons, List.append_assoc]

end Reference

/-- From some look on, what happens is what the reference says. -/
theorem events_of_trace {stop left looks : Nat} {events : Events}
    {out : Option (Except PollError Operation)}
    (reference : policy.EndsFirst description operation answers stop ending)
    (trace : WaitTrace policy description (start + policy.timeout.nanos) left
      (limitedAfter answers looks) (knownAfter operation answers looks) events out)
    (follows : Follows answers ⟨policy.timeAfter start looks, looks⟩ events)
    (inTime : looks ≤ stop) (enough : ending.looks ≤ looks + left) :
    out = some ending.result ∧
      events = policy.eventsFrom operation answers start stop ending looks := by
  -- The recursion is on the looks that are left, and the reference is at the same look.
  cases trace with
  | completed time isDone noError =>
      obtain ⟨rfl, -⟩ := follows
      obtain ⟨rfl, rfl⟩ :=
        reference.eq_of_endAfter (endAfter?_of_completed isDone noError) inTime
      simp [eventsFrom]
  | failed time isDone isError =>
      obtain ⟨rfl, -⟩ := follows
      obtain ⟨rfl, rfl⟩ := reference.eq_of_endAfter (endAfter?_of_failed isDone isError) inTime
      simp [eventsFrom]
  | timedOut time pending late =>
      obtain ⟨rfl, -⟩ := follows
      have overdue := deadline_le_timeAfter_iff.mp late
      obtain ⟨rfl, rfl⟩ := reference.eq_of_endAfter (endAfter?_of_late pending overdue) inTime
      simp [eventsFrom]
  | cutOff time pending early =>
      obtain ⟨rfl, -⟩ := follows
      have early := timeAfter_lt_iff.mp early
      cases refused : policy.refusal? answers looks with
      | none =>
          have later := reference.lt_of_going pending early refused inTime
          have := reference.looks_eq
          omega
      | some error =>
          obtain ⟨rfl, rfl⟩ :=
            reference.eq_of_endAfter (endAfter?_of_refused pending early refused) inTime
          exact absurd enough (Nat.not_succ_le_self stop)
  | seen time pending early rest =>
      obtain ⟨rfl, early, answer, follows⟩ := follows_of_round early follows
      have goesOn := reference.lt_of_going pending early (refusal?_of_seen answer) inTime
      rw [← knownAfter_succ_of_seen answer, ← limitedAfter_succ_of_seen answer] at rest
      obtain ⟨rfl, rfl⟩ := events_of_trace reference rest follows goesOn (by omega)
      rw [reference.eventsFrom_eq goesOn, lookAfter, answer]
      exact ⟨rfl, rfl⟩
  | limited time pending early again rest =>
      obtain ⟨rfl, early, answer, follows⟩ := follows_of_round early follows
      rw [← limitedAfter_succ_of_limited answer] at rest again
      have unrefused : policy.refusal? answers looks = none :=
        refusal?_of_limited answer (by omega)
      have goesOn := reference.lt_of_going pending early unrefused inTime
      rw [← knownAfter_succ_of_error answer] at rest
      obtain ⟨rfl, rfl⟩ := events_of_trace reference rest follows goesOn (by omega)
      rw [reference.eventsFrom_eq goesOn, lookAfter, answer]
      exact ⟨rfl, rfl⟩
  | @unanswered _ _ _ error time pending early final =>
      obtain ⟨rfl, early, answer, -⟩ := follows_of_round early follows
      have refused : policy.refusal? answers looks = some error := by
        refine refusal?_of_final answer ?_
        rintro message rfl
        have := final message rfl
        have := reference.limited_lt inTime
        rw [limitedAfter_succ_of_limited answer]
        omega
      obtain ⟨rfl, rfl⟩ :=
        reference.eq_of_endAfter (endAfter?_of_refused pending early refused) inTime
      simp [eventsFrom, lookAfter, answer]
termination_by left

end EndsFirst

/-- Waiting ends at some point, since the time is over at some point. -/
theorem exists_endsFirst (positive : 0 < policy.interval.nanos) :
    ∃ stop ending, policy.EndsFirst description operation answers stop ending := by
  have stops : ∃ stop, policy.endAfter? description operation answers stop ≠ none := by
    refine ⟨policy.timeout.nanos, fun going => ?_⟩
    obtain ⟨-, early, -⟩ := endAfter?_eq_none_iff.mp going
    exact absurd early (Nat.not_lt.mpr (Nat.le_mul_of_pos_right _ positive))
  obtain ⟨ending, ends⟩ := Option.ne_none_iff_exists'.mp (Nat.find_spec stops)
  exact ⟨Nat.find stops, ending, ends, fun earlier less => not_not.mp (Nat.find_min stops less)⟩

theorem looks_flatMap_lookAfter (before : List Nat) :
    ManagedCluster.looks (before.flatMap (policy.lookAfter operation answers start)) =
      before.length := by
  induction before with
  | nil => rfl
  | cons looks before ih =>
      rw [List.flatMap_cons, looks_append, ih, List.length_cons, Nat.add_comm]
      rfl

theorem looks_eventsFrom :
    ManagedCluster.looks (policy.eventsFrom operation answers start stop ending looks) =
      ending.looks - looks := by
  have last : ManagedCluster.looks
      (if ending.looks = stop then [.clockRead (policy.timeAfter start stop)] else []) = 0 := by
    split <;> rfl
  rw [eventsFrom, looks_append, looks_flatMap_lookAfter, List.length_range', last, Nat.add_zero]

/-- With a deadline, waiting on a stream of answers goes through what the reference says. -/
theorem run_wait_of_lt (reference : policy.EndsFirst description operation answers stop ending)
    (early : start + policy.timeout.nanos < clockLimit) (enough : ending.looks ≤ policy.patience) :
    let run := (policy.wait description operation).run (streamed answers) ⟨start, 0⟩
    run.result = some ending.result ∧
      run.events = .clockRead start :: policy.eventsFrom operation answers start stop ending 0 := by
  have waiting := waiting_of_wait
    (Program.run_yields (streamed answers) (policy.wait description operation) ⟨start, 0⟩)
  have follows := run_follows answers (policy.wait description operation) ⟨start, 0⟩
  generalize (policy.wait description operation).run (streamed answers) ⟨start, 0⟩ = run at *
  obtain ⟨result, state, events⟩ := run
  cases waiting with
  | timed first _ trace =>
      obtain ⟨rfl, follows⟩ := follows
      have same : policy.timeAfter first 0 = first := by simp [timeAfter]
      rw [← same] at follows
      obtain ⟨rfl, rfl⟩ := reference.events_of_trace trace follows (Nat.zero_le stop) (by omega)
      exact ⟨rfl, rfl⟩
  | timeless first late =>
      obtain ⟨rfl, -⟩ := follows
      exact absurd early (Nat.not_lt.mpr late)

/-- Without a deadline, waiting ends at once. -/
theorem run_wait_of_le (late : clockLimit ≤ start + policy.timeout.nanos) :
    (policy.wait description operation).run (streamed answers) ⟨start, 0⟩ =
      ⟨none, ⟨start, 0⟩, [.clockRead start]⟩ := by
  simp [wait, Program.now, Program.run, streamed, deadline?_of_le late]

/-- Waiting on a stream of answers ends exactly as the reference says, with as many looks, if a
clock can show the deadline. If not, it has no result and does not even look. -/
theorem wait_eq_reference (policy : PollPolicy) (description : String) (operation : Operation)
    (answers : Nat → Except ApiError Operation) (positive : 0 < policy.interval.nanos) :
    (∃ stop ending, policy.EndsFirst description operation answers stop ending) ∧
    ∀ stop ending, policy.EndsFirst description operation answers stop ending →
      ending.looks ≤
        (policy.timeout.nanos + policy.interval.nanos - 1) / policy.interval.nanos ∧
      ∀ start,
        let run := (policy.wait description operation).run (streamed answers) ⟨start, 0⟩
        (start + policy.timeout.nanos < clockLimit → ending.looks ≤ policy.patience →
          run.result = some ending.result ∧
          ManagedCluster.looks run.events = ending.looks ∧
          run.events =
            .clockRead start :: policy.eventsFrom operation answers start stop ending 0) ∧
        (clockLimit ≤ start + policy.timeout.nanos →
          run.result = none ∧ run.events = [.clockRead start]) := by
  refine ⟨exists_endsFirst positive, fun stop ending reference => ?_⟩
  refine ⟨reference.looks_le positive, fun start => ⟨?_, ?_⟩⟩
  · intro early enough
    obtain ⟨result, events⟩ := run_wait_of_lt reference early enough
    refine ⟨result, ?_, events⟩
    rw [events]
    exact looks_eventsFrom
  · intro late
    rw [run_wait_of_le late]
    exact ⟨rfl, rfl⟩

/-- Time for two intervals and a half, and for one rate limited look in a row. -/
def hasty : PollPolicy where
  timeout := Duration.ofSeconds 20
  interval := Duration.ofSeconds 8
  retry := ⟨2, .zero, .zero⟩
  patience := 3

/-- The first look is rate limited, and the third sees the operation done. -/
def slowly : Nat → Except ApiError Operation
  | 0 => .error (.rateLimited "slow down")
  | 1 => .ok { name := "resize" }
  | _ => .ok { name := "resize", done := true }

theorem wait_eq_reference_hasty :
    0 < hasty.interval.nanos ∧
    hasty.EndsFirst "resizing" { name := "op" } slowly 3
      ⟨3, .ok { name := "resize", done := true }⟩ ∧
    ((hasty.wait "resizing" { name := "op" }).run (streamed slowly) ⟨0, 0⟩).result =
      some (.ok { name := "resize", done := true }) ∧
    ((hasty.wait "resizing" { name := "op" }).run (streamed slowly) ⟨clockLimit - 1, 0⟩).result =
      none := by
  have positive : 0 < hasty.interval.nanos := by decide
  have reference : hasty.EndsFirst "resizing" { name := "op" } slowly 3
      ⟨3, .ok { name := "resize", done := true }⟩ := ⟨rfl, by decide⟩
  obtain ⟨-, run⟩ := wait_eq_reference hasty "resizing" { name := "op" } slowly positive
  obtain ⟨-, run⟩ := run 3 _ reference
  obtain ⟨result, -⟩ := (run 0).1 (by decide) (by decide)
  obtain ⟨nothing, -⟩ := (run (clockLimit - 1)).2 (by decide)
  exact ⟨positive, reference, result, nothing⟩

/-- A clock can count 118 of these timeouts, but no more. -/
def ageless : PollPolicy where
  timeout := Duration.ofSeconds 77680000000000000
  interval := Duration.ofSeconds 12
  retry := ⟨1, .zero, .zero⟩
  patience := 1

/-- After 118 sleeps of that length, not even an operation that is done is reported. -/
theorem not_forall_wait_eq_reference :
    ¬ ∀ (policy : PollPolicy) (description : String) (operation : Operation)
      (answers : Nat → Except ApiError Operation) (start stop : Nat) (ending : WaitEnd),
      0 < policy.interval.nanos → policy.EndsFirst description operation answers stop ending →
      ending.looks ≤ policy.patience →
      ((policy.wait description operation).run (streamed answers) ⟨start, 0⟩).result =
        some ending.result := by
  intro reported
  have finished : ageless.EndsFirst "resizing" { name := "op", done := true } slowly 0
      ⟨0, .ok { name := "op", done := true }⟩ := ⟨rfl, nofun⟩
  have late : clockLimit ≤ 118 * ageless.timeout.nanos + ageless.timeout.nanos := by decide
  have result := reported ageless "resizing" _ slowly (118 * ageless.timeout.nanos) 0 _ (by decide)
    finished (by decide)
  rw [run_wait_of_le late] at result
  cases result

end PollPolicy

end ManagedCluster
