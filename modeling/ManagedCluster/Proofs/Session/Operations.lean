import ManagedCluster.Proofs.Session.Requests

/-! # What comes of a request that starts an operation

A request that was rate limited is sent again, and the operation that it starts is looked at until
it is done. The traces of both are listed here by what ends them. Waiting comes to a good end
exactly when the operation is seen to be done without an error, and a clock can show the time at
which waiting would have been over.
-/

namespace ManagedCluster

/-- The request is sent this often, first as the given attempt. Every answer but the last one says
that it came too often. -/
inductive Attempts (policy : RetryPolicy) (request : Request) :
    Nat → Nat → Events → request.Answer → Prop
  | final {attempt : Nat} (answer : request.Answer) :
      Attempts policy request attempt 1 [.answered request answer] answer
  | again {attempt count : Nat} {events : Events} {answer : request.Answer} (message : String) :
      Attempts policy request (attempt + 1) count events answer →
      Attempts policy request attempt (count + 1)
        (.answered request (.error (.rateLimited message)) ::
          .slept (policy.delayAfter attempt) :: events) answer

/-- The operation that the provider reports in an answer. -/
def reported? : Event Request Request.Answer → Option Operation
  | .answered (.createCluster _ _ _) (.ok operation) => some operation
  | .answered (.patchCluster _ _ _) (.ok operation) => some operation
  | .answered (.deleteCluster _) (.ok operation) => some operation
  | .answered (.getOperation _) (.ok operation) => some operation
  | _ => none

/-- The operation is done, and without an error. -/
def Operation.Succeeded (operation : Operation) : Prop :=
  operation.done = true ∧ operation.error = none

/-- An operation was seen that is done without an error. -/
def SeenDone (events : Events) : Prop :=
  ∃ event ∈ events, ∃ operation, reported? event = some operation ∧ operation.Succeeded

section SeenDone

variable {before after events : Events} {event : Event Request Request.Answer}

@[simp] theorem reported?_clockRead (time : Nat) : reported? (.clockRead time) = none := rfl

@[simp] theorem reported?_slept (duration : Duration) : reported? (.slept duration) = none := rfl

@[simp] theorem reported?_getOperation (name : String) (answer : Except ApiError Operation) :
    reported? (.answered (.getOperation name) answer) = answer.toOption := by
  cases answer <;> rfl

@[simp] theorem not_seenDone_nil : ¬ SeenDone [] := by
  simp [SeenDone]

@[simp] theorem seenDone_cons_iff :
    SeenDone (event :: events) ↔
      (∃ operation, reported? event = some operation ∧ operation.Succeeded) ∨ SeenDone events := by
  simp [SeenDone]

@[simp] theorem seenDone_append_iff :
    SeenDone (before ++ after) ↔ SeenDone before ∨ SeenDone after := by
  simp [SeenDone, or_and_right, exists_or]

end SeenDone

/-- What the clock shows when it is first read. -/
def firstReading? (events : Events) : Option Nat :=
  events.findSome? fun
    | .clockRead time => some time
    | _ => none

/-- A clock can show the time that comes so long after the first reading, if there is one. -/
def HasDeadline (timeout : Duration) (events : Events) : Prop :=
  ∀ start, firstReading? events = some start → start + timeout.nanos < clockLimit

section HasDeadline

variable {timeout : Duration} {before after : Events}

@[simp] theorem hasDeadline_clockRead_cons_iff {start : Nat} :
    HasDeadline timeout (.clockRead start :: after) ↔ start + timeout.nanos < clockLimit := by
  simp [HasDeadline, firstReading?]

theorem firstReading?_append :
    firstReading? (before ++ after) = (firstReading? before).or (firstReading? after) :=
  List.findSome?_append

theorem hasDeadline_append_iff (unread : firstReading? before = none) :
    HasDeadline timeout (before ++ after) ↔ HasDeadline timeout after := by
  simp only [HasDeadline, firstReading?_append, unread, Option.none_or]

theorem hasDeadline_append_iff_left (unread : firstReading? after = none) :
    HasDeadline timeout (before ++ after) ↔ HasDeadline timeout before := by
  simp only [HasDeadline, firstReading?_append, unread, Option.or_none]

end HasDeadline

section Retry

variable {policy : RetryPolicy} {request : Request} {attempt left count : Nat} {events : Events}
  {answer : request.Answer}

theorem attempts_of_retryFrom
    (trace : (policy.retryFrom (Program.ask request) attempt left).Yields events (some answer)) :
    ∃ count, count ≤ left + 1 ∧ Attempts policy request attempt count events answer ∧
      ∀ message, answer = .error (.rateLimited message) → count = left + 1 := by
  induction left generalizing attempt events with
  | zero =>
      obtain ⟨given, rfl, same⟩ := Program.yields_ask_iff.mp trace
      obtain rfl := Option.some.inj same
      exact ⟨1, Nat.le_refl 1, .final answer, fun _ _ => rfl⟩
  | succ left ih =>
      obtain ⟨first, rest, rfl, ending⟩ := Program.yields_send_iff.mp trace
      rcases first with (resource | message | ⟨code, message⟩) | reply
      · obtain ⟨rfl, rfl⟩ := Program.yields_done_some_iff.mp ending
        exact ⟨1, Nat.le_add_left 1 (left + 1), .final _, fun _ same => nomatch same⟩
      · obtain _ | _ | _ | ending := ending
        obtain ⟨count, few, attempts, exhausted⟩ := ih ending
        exact ⟨count + 1, Nat.succ_le_succ few, .again message attempts, fun again same =>
          congrArg (· + 1) (exhausted again same)⟩
      · obtain ⟨rfl, rfl⟩ := Program.yields_done_some_iff.mp ending
        exact ⟨1, Nat.le_add_left 1 (left + 1), .final _, fun _ same => nomatch same⟩
      · obtain ⟨rfl, rfl⟩ := Program.yields_done_some_iff.mp ending
        exact ⟨1, Nat.le_add_left 1 (left + 1), .final _, fun _ same => nomatch same⟩

theorem attempts_of_retry
    (trace : (policy.retry (Program.ask request)).Yields events (some answer)) :
    ∃ count, count ≤ max policy.maxAttempts.toNat 1 ∧
      Attempts policy request 1 count events answer ∧
      ∀ message, answer = .error (.rateLimited message) →
        count = max policy.maxAttempts.toNat 1 := by
  obtain ⟨count, few, attempts, exhausted⟩ := attempts_of_retryFrom trace
  refine ⟨count, by omega, attempts, fun message same => ?_⟩
  have used := exhausted message same
  omega

/-- Sending a request again comes to an end. -/
theorem not_retryFrom_cutOff :
    ¬ (policy.retryFrom (Program.ask request) attempt left).Yields events none := by
  induction left generalizing attempt events with
  | zero =>
      intro trace
      obtain ⟨_, -, cut⟩ := Program.yields_ask_iff.mp trace
      cases cut
  | succ left ih =>
      intro trace
      obtain ⟨first, rest, -, ending⟩ := Program.yields_send_iff.mp trace
      rcases first with (resource | message | ⟨code, message⟩) | reply
      · cases ending
      · obtain _ | _ | _ | ending := ending
        exact ih ending
      · cases ending
      · cases ending

theorem Attempts.sent_iff (attempts : Attempts policy request attempt count events answer)
    {other : Request} : Program.Sent events other ↔ other = request := by
  induction attempts with
  | final answer => simp
  | again message _ ih => simp [ih]

/-- Only the last answer counts for what an answer of too many requests and a pause are not. -/
theorem Attempts.any_eq (attempts : Attempts policy request attempt count events answer)
    {holds : Event Request Request.Answer → Bool}
    (limited : ∀ message, holds (.answered request (.error (.rateLimited message))) = false)
    (slept : ∀ duration, holds (.slept duration) = false) :
    events.any holds = holds (.answered request answer) := by
  induction attempts with
  | final answer => simp
  | again message _ ih => simp [ih, limited, slept]

theorem Attempts.seenDone_iff (attempts : Attempts policy request attempt count events answer) :
    SeenDone events ↔
      ∃ operation, reported? (.answered request answer) = some operation ∧ operation.Succeeded := by
  induction attempts with
  | final answer => simp
  | again message _ ih =>
      have nothing : reported? (.answered request (.error (.rateLimited message))) = none := by
        cases request <;> rfl
      simp [ih, nothing]

theorem Attempts.firstReading?_eq
    (attempts : Attempts policy request attempt count events answer) :
    firstReading? events = none := by
  induction attempts with
  | final answer => rfl
  | again message _ ih => exact ih

end Retry

section Submit

variable {policy : PollPolicy} {description : String} {events : Events}

theorem submit_trace {asked : Session (Except ApiError Operation)}
    {answer : Except PollError Operation}
    (trace : (policy.submit description asked).Yields events (some answer)) :
    ∃ given, (policy.retry.retry asked).Yields events (some given) ∧
      answer = given.mapError (.submit description) := by
  obtain ⟨given, before, after, asked, ending, rfl⟩ := Program.yields_bind_some trace
  obtain ⟨rfl, rfl⟩ := Program.yields_done_some_iff.mp ending
  rw [List.append_nil]
  exact ⟨given, asked, rfl⟩

theorem not_submit_cutOff {asked : Session (Except ApiError Operation)}
    (never : ∀ events, ¬ (policy.retry.retry asked).Yields events none) :
    ¬ (policy.submit description asked).Yields events none := by
  intro trace
  rcases Program.yields_bind_iff.mp trace with ⟨cut, -⟩ | ⟨answer, before, after, -, ending, -⟩
  · exact never events cut
  · cases ending

end Submit

/-- How waiting may go on from a look at the operation. The numbers are the looks that are left and
how many in a row were rate limited. -/
inductive WaitTrace (policy : PollPolicy) (description : String) (deadline : Nat) :
    Nat → Nat → Operation → Events → Option (Except PollError Operation) → Prop
  | completed {left limited : Nat} {operation : Operation} (time : Nat)
      (isDone : operation.done = true) (noError : operation.error = none) :
      WaitTrace policy description deadline left limited operation [.clockRead time]
        (some (.ok operation))
  | failed {left limited : Nat} {operation : Operation} {status : Status} (time : Nat)
      (isDone : operation.done = true) (isError : operation.error = some status) :
      WaitTrace policy description deadline left limited operation [.clockRead time]
        (some (.error (.failed description operation.name status)))
  | timedOut {left limited : Nat} {operation : Operation} (time : Nat)
      (pending : operation.done = false) (late : deadline ≤ time) :
      WaitTrace policy description deadline left limited operation [.clockRead time]
        (some (.error (.timedOut description operation.name policy.timeout)))
  | cutOff {limited : Nat} {operation : Operation} (time : Nat)
      (pending : operation.done = false) (early : time < deadline) :
      WaitTrace policy description deadline 0 limited operation [.clockRead time] none
  | seen {left limited : Nat} {operation next : Operation} {events : Events}
      {out : Option (Except PollError Operation)} (time : Nat)
      (pending : operation.done = false) (early : time < deadline) :
      WaitTrace policy description deadline left 0 next events out →
      WaitTrace policy description deadline (left + 1) limited operation
        (.clockRead time :: .slept (policy.interval.atMost (deadline - time)) ::
          .answered (.getOperation operation.name) (.ok next) :: events) out
  | limited {left limited : Nat} {operation : Operation} {events : Events} {message : String}
      {out : Option (Except PollError Operation)} (time : Nat)
      (pending : operation.done = false) (early : time < deadline)
      (again : limited + 1 < policy.retry.maxAttempts.toNat) :
      WaitTrace policy description deadline left (limited + 1) operation events out →
      WaitTrace policy description deadline (left + 1) limited operation
        (.clockRead time :: .slept (policy.interval.atMost (deadline - time)) ::
          .answered (.getOperation operation.name) (.error (.rateLimited message)) :: events) out
  | unanswered {left limited : Nat} {operation : Operation} {error : ApiError} (time : Nat)
      (pending : operation.done = false) (early : time < deadline)
      (final : ∀ message, error = .rateLimited message →
        policy.retry.maxAttempts.toNat ≤ limited + 1) :
      WaitTrace policy description deadline (left + 1) limited operation
        [.clockRead time, .slept (policy.interval.atMost (deadline - time)),
          .answered (.getOperation operation.name) (.error error)]
        (some (.error (.poll description operation.name error)))

section Wait

variable {policy : PollPolicy} {description : String} {deadline left limited : Nat}
  {operation : Operation} {events : Events} {out : Option (Except PollError Operation)}

theorem after_observe (operation : Operation) (late : Bool) :
    OperationPhase.polling.after (operation.observe late) =
      if operation.done then if operation.error.isSome then .failed else .done
      else if late then .timedOut else .polling := by
  unfold Operation.observe
  cases operation.done <;> cases operation.error.isSome <;> cases late <;> rfl

theorem waitUntil_trace {left limited : Nat} {operation : Operation} {events : Events}
    (trace : (policy.waitUntil description deadline left limited operation).Yields events out) :
    WaitTrace policy description deadline left limited operation events out := by
  unfold PollPolicy.waitUntil at trace
  obtain ⟨time, rest, rfl, ending⟩ := Program.yields_now_bind_iff.mp trace
  rw [after_observe] at ending
  cases isDone : operation.done with
  | true =>
      cases isError : operation.error with
      | none =>
          simp only [isDone, isError] at ending
          obtain ⟨rfl, rfl⟩ := Program.yields_done_iff.mp ending
          exact .completed time isDone isError
      | some status =>
          simp only [isDone, isError] at ending
          obtain ⟨rfl, rfl⟩ := Program.yields_done_iff.mp ending
          exact .failed time isDone isError
  | false =>
      by_cases late : deadline ≤ time
      · simp only [isDone, late] at ending
        obtain ⟨rfl, rfl⟩ := Program.yields_done_iff.mp ending
        exact .timedOut time isDone late
      · have early : time < deadline := Nat.lt_of_not_le late
        simp only [isDone, late] at ending
        cases left with
        | zero =>
            obtain ⟨rfl, rfl⟩ := Program.yields_cutOff_iff.mp ending
            exact .cutOff time isDone early
        | succ left =>
            obtain ⟨rest, rfl, woken⟩ := Program.yields_pause_bind_iff.mp ending
            obtain ⟨answer, rest, rfl, answered⟩ := Program.yields_ask_bind_iff.mp woken
            rcases answer with (resource | message | ⟨code, message⟩) | next
            · obtain ⟨rfl, rfl⟩ := Program.yields_done_iff.mp answered
              refine .unanswered time isDone early ?_
              intro _ same
              cases same
            · by_cases again : limited + 1 < policy.retry.maxAttempts.toNat
              · simp only [again] at answered
                exact .limited time isDone early again (waitUntil_trace answered)
              · simp only [again] at answered
                obtain ⟨rfl, rfl⟩ := Program.yields_done_iff.mp answered
                exact .unanswered time isDone early fun _ _ => Nat.le_of_not_lt again
            · obtain ⟨rfl, rfl⟩ := Program.yields_done_iff.mp answered
              refine .unanswered time isDone early ?_
              intro _ same
              cases same
            · exact .seen time isDone early (waitUntil_trace answered)
termination_by left

/-- How waiting may go on from its start. It ends there if no clock can show the deadline. -/
inductive Waiting (policy : PollPolicy) (description : String) (operation : Operation) :
    Events → Option (Except PollError Operation) → Prop
  | timed {events : Events} {out : Option (Except PollError Operation)} (start : Nat)
      (early : start + policy.timeout.nanos < clockLimit)
      (trace : WaitTrace policy description (start + policy.timeout.nanos) policy.patience 0
        operation events out) :
      Waiting policy description operation (.clockRead start :: events) out
  | timeless (start : Nat) (late : clockLimit ≤ start + policy.timeout.nanos) :
      Waiting policy description operation [.clockRead start] none

theorem deadline?_of_lt {start : Nat} (early : start + policy.timeout.nanos < clockLimit) :
    policy.deadline? start = some (start + policy.timeout.nanos) := by
  simp [PollPolicy.deadline?, Nat.add_comm policy.timeout.nanos, early]

theorem deadline?_of_le {start : Nat} (late : clockLimit ≤ start + policy.timeout.nanos) :
    policy.deadline? start = none := by
  simp [PollPolicy.deadline?, Nat.add_comm policy.timeout.nanos, late]

theorem waiting_of_wait (trace : (policy.wait description operation).Yields events out) :
    Waiting policy description operation events out := by
  obtain ⟨start, rest, rfl, waiting⟩ := Program.yields_now_bind_iff.mp trace
  rcases Nat.lt_or_ge (start + policy.timeout.nanos) clockLimit with early | late
  · rw [deadline?_of_lt early] at waiting
    exact .timed start early (waitUntil_trace waiting)
  · rw [deadline?_of_le late] at waiting
    obtain ⟨rfl, rfl⟩ := Program.yields_cutOff_iff.mp waiting
    exact .timeless start late

/-- Waiting comes to a good end exactly when the operation is seen to be done without an error. -/
theorem WaitTrace.isOk_iff
    (trace : WaitTrace policy description deadline left limited operation events out) :
    (∃ finished, out = some (.ok finished)) ↔ operation.Succeeded ∨ SeenDone events := by
  induction trace with
  | completed time isDone noError => simp [Operation.Succeeded, isDone, noError]
  | failed time isDone isError => simp [Operation.Succeeded, isError]
  | timedOut time pending late => simp [Operation.Succeeded, pending]
  | cutOff time pending early => simp [Operation.Succeeded, pending]
  | seen time pending early _ ih => simp [ih, Operation.Succeeded, pending, Except.toOption]
  | limited time pending early again _ ih =>
      simp [ih, Operation.Succeeded, pending, Except.toOption]
  | unanswered time pending early final => simp [Operation.Succeeded, pending, Except.toOption]

/-- Waiting that has a deadline comes to a good end exactly when the operation is seen to be done
without an error. -/
theorem Waiting.isOk_iff (waiting : Waiting policy description operation events out) :
    (∃ finished, out = some (.ok finished)) ↔
      (operation.Succeeded ∨ SeenDone events) ∧ HasDeadline policy.timeout events := by
  cases waiting with
  | timed start early trace => simp [trace.isOk_iff, early]
  | timeless start late => simp [Nat.not_lt.mpr late]

/-- How often an operation was looked at. -/
def looks (events : Events) : Nat :=
  events.countP fun
    | .answered (.getOperation _) _ => true
    | _ => false

theorem looks_append (before after : Events) :
    looks (before ++ after) = looks before + looks after :=
  List.countP_append

theorem looks_eq_zero (unseen : ∀ name, ¬ Program.Sent events (.getOperation name)) :
    looks events = 0 := by
  refine List.countP_eq_zero.mpr ?_
  intro event member isLook
  split at isLook
  · next name answer => exact unseen name ⟨answer, member⟩
  · cases isLook

/-- The operation as it is known after the events, if it is known as this before. -/
def lastSeen (operation : Operation) (events : Events) : Operation :=
  events.foldl (fun known event => (reported? event).getD known) operation

@[simp] theorem lastSeen_nil : lastSeen operation [] = operation := rfl

@[simp] theorem lastSeen_cons {event : Event Request Request.Answer} :
    lastSeen operation (event :: events) = lastSeen ((reported? event).getD operation) events := rfl

/-- Waiting comes to a good end when the operation was last seen to be done without an error. -/
theorem WaitTrace.lastSeen_eq {finished : Operation}
    (trace : WaitTrace policy description deadline left limited operation events
      (some (.ok finished))) :
    lastSeen operation events = finished ∧ finished.Succeeded := by
  generalize ending : some (Except.ok finished) = out at trace
  induction trace with
  | completed time isDone noError =>
      cases ending
      exact ⟨rfl, isDone, noError⟩
  | failed time isDone isError => cases ending
  | timedOut time pending late => cases ending
  | cutOff time pending early => cases ending
  | seen time pending early _ ih => exact ih ending
  | limited time pending early again _ ih => exact ih ending
  | unanswered time pending early final => cases ending

/-- Each look goes by the name that the operation had when it was last seen. -/
theorem WaitTrace.name_eq {before after : Events} {name : String}
    {answer : Except ApiError Operation}
    (trace : WaitTrace policy description deadline left limited operation events out)
    (split : events = before ++ .answered (.getOperation name) answer :: after) :
    name = (lastSeen operation before).name := by
  induction trace generalizing before with
  | completed | failed | timedOut | cutOff =>
      rcases before with _ | ⟨_, _ | ⟨_, _⟩⟩ <;> cases split
  | seen time pending early _ ih =>
      rcases before with _ | ⟨_, _ | ⟨_, _ | ⟨_, before⟩⟩⟩
      · cases split
      · cases split
      · cases split
        rfl
      · cases split
        exact @ih before rfl
  | limited time pending early again _ ih =>
      rcases before with _ | ⟨_, _ | ⟨_, _ | ⟨_, before⟩⟩⟩
      · cases split
      · cases split
      · cases split
        rfl
      · cases split
        exact @ih before rfl
  | unanswered time pending early final =>
      rcases before with _ | ⟨_, _ | ⟨_, _ | ⟨_, _ | ⟨_, _⟩⟩⟩⟩
      · cases split
      · cases split
      · cases split
        rfl
      · cases split
      · cases split

theorem Waiting.lastSeen_eq {finished : Operation}
    (waiting : Waiting policy description operation events (some (.ok finished))) :
    lastSeen operation events = finished ∧ finished.Succeeded := by
  cases waiting with
  | timed start early trace => simpa using trace.lastSeen_eq

theorem Waiting.name_eq {before after : Events} {name : String}
    {answer : Except ApiError Operation}
    (waiting : Waiting policy description operation events out)
    (split : events = before ++ .answered (.getOperation name) answer :: after) :
    name = (lastSeen operation before).name := by
  cases waiting with
  | timed start early trace =>
      cases before with
      | nil => cases split
      | cons first before =>
          cases split
          simpa using trace.name_eq rfl
  | timeless start late => rcases before with _ | ⟨_, _ | ⟨_, _⟩⟩ <;> cases split

/-- Looking is only cut off when no looks are left. -/
theorem WaitTrace.looks_of_cutOff
    (trace : WaitTrace policy description deadline left limited operation events none) :
    looks events = left := by
  generalize ending : none = out at trace
  induction trace with
  | completed time isDone noError => cases ending
  | failed time isDone isError => cases ending
  | timedOut time pending late => cases ending
  | cutOff time pending early => rfl
  | seen time pending early _ ih => simpa [looks] using ih ending
  | limited time pending early again _ ih => simpa [looks] using ih ending
  | unanswered time pending early final => cases ending

/-- Waiting is only cut off when no looks are left, or at once if there is no deadline. -/
theorem Waiting.looks_of_cutOff (waiting : Waiting policy description operation events none) :
    (HasDeadline policy.timeout events → looks events = policy.patience) ∧
      (¬ HasDeadline policy.timeout events → looks events = 0) := by
  cases waiting with
  | timed start early trace => simpa [early, looks] using trace.looks_of_cutOff
  | timeless start late => simp [Nat.not_lt.mpr late, looks]

end Wait

end ManagedCluster
