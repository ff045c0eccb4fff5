import ManagedCluster.Proofs.Session.Stream

/-! # Waiting on a clock that may run late

A sleep may take longer than asked for, and time may pass between any two steps. Waiting still comes
to an end: it never sleeps past the deadline, and every look but the last uses up an interval.
-/

namespace ManagedCluster

section Steady

variable {ρ : Type} {Answer : ρ → Type} {σ α : Type}

/-- The clock of this world never runs backwards, and a sleep takes at least as long as asked for.
The function says what the clock shows in a state. -/
structure World.Steady (world : World ρ Answer σ) (clock : σ → Nat) : Prop where
  answer : ∀ request state, clock state ≤ clock (world.answer request state).2
  le_reading : ∀ state, clock state ≤ (world.readClock state).1
  reading_le : ∀ state, (world.readClock state).1 ≤ clock (world.readClock state).2
  sleep : ∀ duration state, clock state + duration.nanos ≤ clock (world.sleep duration state)

/-- From this time on, no clock reading among the events is early. -/
def Paced (now : Nat) : List (Event ρ Answer) → Prop
  | [] => True
  | .clockRead time :: rest => now ≤ time ∧ Paced time rest
  | .slept duration :: rest => Paced (now + duration.nanos) rest
  | .answered _ _ :: rest => Paced now rest

theorem Paced.mono {now earlier : Nat} {events : List (Event ρ Answer)} (paced : Paced now events)
    (before : earlier ≤ now) : Paced earlier events := by
  induction events generalizing now earlier with
  | nil => trivial
  | cons event rest ih =>
      cases event with
      | answered request answer => exact ih paced before
      | clockRead time => exact ⟨Nat.le_trans before paced.1, paced.2⟩
      | slept duration => exact ih paced (Nat.add_le_add_right before _)

theorem run_paced {world : World ρ Answer σ} {clock : σ → Nat} (steady : world.Steady clock)
    (program : Program ρ Answer α) (state : σ) :
    Paced (clock state) (program.run world state).events := by
  induction program generalizing state with
  | done result => trivial
  | send request next ih => exact (ih _ _).mono (steady.answer request state)
  | readClock next ih => exact ⟨steady.le_reading state, (ih _ _).mono (steady.reading_le state)⟩
  | sleep duration next ih => exact (ih _).mono (steady.sleep duration state)
  | cutOff => trivial

end Steady

/-- How long the sleeps among the events were meant to be, together. -/
def asleep : Events → Nat
  | [] => 0
  | .slept duration :: rest => duration.nanos + asleep rest
  | _ :: rest => asleep rest

/-- How many looks in a row are rate limited up to the end of the events, if so many were before. -/
def limitedOver (before : Nat) (events : Events) : Nat :=
  events.foldl (fun count event => match event with
    | .answered (.getOperation _) answer => limitedWith count answer
    | _ => count) before

/-- What keeps waiting within bounds, from the reading of the clock at the start. -/
structure PollPolicy.Bounds (policy : PollPolicy) (start : Nat) (events : Events)
    (out : Option (Except PollError Operation)) : Prop where
  /-- There is a result if a clock can show the deadline, with patience for that many looks. -/
  ends : start + policy.timeout.nanos < clockLimit →
    policy.timeout.nanos ≤ policy.patience * policy.interval.nanos → ∃ result, out = some result
  looks_le : looks events ≤
    (policy.timeout.nanos + policy.interval.nanos - 1) / policy.interval.nanos
  /-- No sleep is longer than the time that was left when the clock was last read. -/
  sleep_le : ∀ before duration after, events = before ++ .slept duration :: after →
    ∃ earlier time, before = earlier ++ [.clockRead time] ∧
      time + duration.nanos ≤ start + policy.timeout.nanos
  asleep_le : asleep events ≤ policy.timeout.nanos
  /-- The time is only over when the clock says so. -/
  late : ∀ error, out = some (.error error) → error.isTimeout = true →
    ∃ before time, events = before ++ [.clockRead time] ∧ start + policy.timeout.nanos ≤ time
  /-- Looks that are rate limited in a row can be counted with 32 bits. -/
  limited_lt : ∀ before after, events = before ++ after → limitedOver 0 before < UInt32.size

/-- What waiting does with its time: in each round it reads the clock, sleeps no longer than to the
deadline, and looks. The number is how many looks are left. -/
inductive Rounds (interval : Duration) (deadline : Nat) :
    Nat → Events → Option (Except PollError Operation) → Prop
  | refused {left : Nat} {error : PollError} (other : error.isTimeout = false) :
      Rounds interval deadline left [] (some (.error error))
  | ended {left : Nat} {result : Except PollError Operation} (time : Nat)
      (late : ∀ error, result = .error error → error.isTimeout = true → deadline ≤ time) :
      Rounds interval deadline left [.clockRead time] (some result)
  | cutOff (time : Nat) (early : time < deadline) :
      Rounds interval deadline 0 [.clockRead time] none
  | look {left : Nat} {events : Events} {out : Option (Except PollError Operation)} (time : Nat)
      (early : time < deadline) (name : String) (answer : Except ApiError Operation) :
      Rounds interval deadline left events out →
      Rounds interval deadline (left + 1) (.clockRead time ::
        .slept (interval.atMost (deadline - time)) ::
          .answered (.getOperation name) answer :: events) out

theorem WaitTrace.rounds {policy : PollPolicy} {description : String} {deadline left limited : Nat}
    {operation : Operation} {events : Events} {out : Option (Except PollError Operation)}
    (trace : WaitTrace policy description deadline left limited operation events out) :
    Rounds policy.interval deadline left events out := by
  induction trace with
  | completed time isDone noError => exact .ended time fun _ same => nomatch same
  | failed time isDone isError =>
      refine .ended time ?_
      rintro _ ⟨⟩ timeout
      cases timeout
  | timedOut time pending late => exact .ended time fun _ _ _ => late
  | cutOff time pending early => exact .cutOff time early
  | seen time pending early _ ih => exact .look time early _ _ ih
  | limited time pending early again _ ih => exact .look time early _ _ ih
  | unanswered time pending early final => exact .look time early _ _ (.refused rfl)

namespace Rounds

variable {interval : Duration} {deadline now left : Nat} {events : Events}
  {out : Option (Except PollError Operation)}

/-- A sleep that leaves some time is as long as the interval. -/
theorem atMost_eq_interval {time more : Nat}
    (early : time + (interval.atMost (deadline - time)).nanos + more < deadline) :
    (interval.atMost (deadline - time)).nanos = interval.nanos := by
  simp only [Duration.atMost] at early ⊢
  omega

/-- Each look but the last takes a whole interval. -/
theorem lt_deadline_of_looks {more : Nat} (rounds : Rounds interval deadline left events out)
    (paced : Paced now events) (count : looks events = more + 1) :
    now + more * interval.nanos < deadline := by
  induction rounds generalizing now more with
  | refused other => cases count
  | ended time late => cases count
  | cutOff time early => cases count
  | look time early name answer rest ih =>
      obtain ⟨onTime, paced⟩ := paced
      cases more with
      | zero => omega
      | succ more =>
          -- There is time for another look after this one, so the sleep was not cut short.
          have later := ih paced (by simpa [looks] using count)
          have whole := atMost_eq_interval later
          rw [Nat.succ_mul]
          omega

/-- Waiting is only cut off if there is time for one more look. -/
theorem lt_deadline_of_cutOff (rounds : Rounds interval deadline left events none)
    (paced : Paced now events) : now + left * interval.nanos < deadline := by
  generalize cut : none = out at rounds
  induction rounds generalizing now with
  | refused other => cases cut
  | ended time late => cases cut
  | cutOff time early =>
      have onTime := paced.1
      omega
  | look time early name answer rest ih =>
      obtain ⟨onTime, paced⟩ := paced
      have later := ih paced cut
      have whole := atMost_eq_interval later
      rw [Nat.succ_mul]
      omega

theorem add_asleep_le (rounds : Rounds interval deadline left events out)
    (paced : Paced now events) (early : now ≤ deadline) : now + asleep events ≤ deadline := by
  induction rounds generalizing now with
  | refused other => exact early
  | ended time late => exact early
  | cutOff time _ => exact early
  | @look left events out time early name answer rest ih =>
      obtain ⟨onTime, paced⟩ := paced
      have inTime : time + (interval.atMost (deadline - time)).nanos ≤ deadline := by
        simp only [Duration.atMost]
        omega
      have later := ih paced inTime
      have total : asleep (.clockRead time :: .slept (interval.atMost (deadline - time)) ::
          .answered (.getOperation name) answer :: events) =
          (interval.atMost (deadline - time)).nanos + asleep events := by
        simp [asleep]
      omega

theorem sleep_le {before after : Events} {duration : Duration}
    (rounds : Rounds interval deadline left events out)
    (split : events = before ++ .slept duration :: after) :
    ∃ earlier time, before = earlier ++ [.clockRead time] ∧ time + duration.nanos ≤ deadline := by
  induction rounds generalizing before with
  | refused other => rcases before with _ | ⟨_, _⟩ <;> cases split
  | ended | cutOff => rcases before with _ | ⟨_, _ | ⟨_, _⟩⟩ <;> cases split
  | look time early name answer rest ih =>
      rcases before with _ | ⟨_, _ | ⟨_, _ | ⟨_, before⟩⟩⟩
      · cases split
      · cases split
        refine ⟨[], time, rfl, ?_⟩
        simp only [Duration.atMost]
        omega
      · cases split
      · cases split
        obtain ⟨earlier, last, rfl, inTime⟩ := @ih before rfl
        exact ⟨_ :: _ :: _ :: earlier, last, rfl, inTime⟩

theorem late {error : PollError}
    (rounds : Rounds interval deadline left events (some (.error error)))
    (timeout : error.isTimeout = true) :
    ∃ before time, events = before ++ [.clockRead time] ∧ deadline ≤ time := by
  generalize ending : some (Except.error error) = out at rounds
  induction rounds with
  | refused other =>
      cases ending
      cases other.symm.trans timeout
  | ended time late =>
      cases ending
      exact ⟨[], time, rfl, late error rfl timeout⟩
  | cutOff time early => cases ending
  | look time early name answer rest ih =>
      obtain ⟨before, last, rfl, late⟩ := ih ending
      exact ⟨_ :: _ :: _ :: before, last, rfl, late⟩

end Rounds

/-- The count of looks that are rate limited in a row stays below the limit until the last one. -/
theorem WaitTrace.limitedOver_le {policy : PollPolicy} {description : String}
    {deadline left limited : Nat} {operation : Operation} {events before after : Events}
    {out : Option (Except PollError Operation)}
    (trace : WaitTrace policy description deadline left limited operation events out)
    (below : limited < max policy.retry.maxAttempts.toNat 1)
    (split : events = before ++ after) :
    limitedOver limited before ≤ max policy.retry.maxAttempts.toNat 1 := by
  induction trace generalizing before with
  | completed | failed | timedOut | cutOff =>
      rcases before with _ | ⟨_, _ | ⟨_, _⟩⟩ <;> cases split <;> exact Nat.le_of_lt below
  | seen time pending early _ ih =>
      rcases before with _ | ⟨_, _ | ⟨_, _ | ⟨_, before⟩⟩⟩ <;> cases split
      · exact Nat.le_of_lt below
      · exact Nat.le_of_lt below
      · exact Nat.le_of_lt below
      · exact @ih before (by omega) rfl
  | limited time pending early again _ ih =>
      rcases before with _ | ⟨_, _ | ⟨_, _ | ⟨_, before⟩⟩⟩ <;> cases split
      · exact Nat.le_of_lt below
      · exact Nat.le_of_lt below
      · exact Nat.le_of_lt below
      · exact @ih before (by omega) rfl
  | @unanswered left limited operation error time pending early final =>
      have next : limitedWith limited (.error error) ≤ limited + 1 := by
        cases error <;> simp [limitedWith]
      rcases before with _ | ⟨_, _ | ⟨_, _ | ⟨_, _ | ⟨_, _⟩⟩⟩⟩ <;> cases split
      · exact Nat.le_of_lt below
      · exact Nat.le_of_lt below
      · exact Nat.le_of_lt below
      · exact Nat.le_trans next below

namespace PollPolicy

section Bounds

variable {policy : PollPolicy} {description : String} {operation : Operation} {start : Nat}
  {events : Events} {out : Option (Except PollError Operation)}

theorem bounds_of_trace (positive : 0 < policy.interval.nanos)
    (trace : WaitTrace policy description (start + policy.timeout.nanos) policy.patience 0
      operation events out) (paced : Paced start events) : policy.Bounds start events out where
  ends _ patient := by
    cases out with
    | some result => exact ⟨result, rfl⟩
    | none =>
        have early := trace.rounds.lt_deadline_of_cutOff paced
        omega
  looks_le := by
    refine Duration.le_div_of_begun positive fun before count => ?_
    have early := trace.rounds.lt_deadline_of_looks paced count
    omega
  sleep_le before duration after split := trace.rounds.sleep_le split
  asleep_le := by
    have inTime := trace.rounds.add_asleep_le paced (Nat.le_add_right start policy.timeout.nanos)
    omega
  late error failed timeout := by
    cases failed
    exact trace.rounds.late timeout
  limited_lt before after split := by
    have few := trace.limitedOver_le (by omega) split
    have attempts := policy.retry.maxAttempts.toNat_lt
    have size : UInt32.size = 2 ^ 32 := rfl
    omega

theorem bounds_of_timeless (late : clockLimit ≤ start + policy.timeout.nanos) :
    policy.Bounds start [] none where
  ends early := absurd early (Nat.not_lt.mpr late)
  looks_le := Nat.zero_le _
  sleep_le before duration after split := by simp at split
  asleep_le := Nat.zero_le _
  late := nofun
  limited_lt before after split := by
    obtain ⟨rfl, -⟩ := List.append_eq_nil_iff.mp split.symm
    decide

end Bounds

/-- On every clock that does not run backwards, waiting stays within its bounds. -/
theorem wait_bounds {σ : Type} {world : World Request Request.Answer σ} {clock : σ → Nat}
    (steady : world.Steady clock) (policy : PollPolicy) (positive : 0 < policy.interval.nanos)
    (description : String) (operation : Operation) (state : σ) :
    let run := (policy.wait description operation).run world state
    ∃ start rest, run.events = .clockRead start :: rest ∧
      policy.Bounds start rest run.result := by
  have paced := run_paced steady (policy.wait description operation) state
  have waiting := waiting_of_wait
    (Program.run_yields world (policy.wait description operation) state)
  generalize (policy.wait description operation).run world state = run at *
  obtain ⟨result, after, events⟩ := run
  cases waiting with
  | timed start early trace => exact ⟨start, _, rfl, bounds_of_trace positive trace paced.2⟩
  | timeless start late => exact ⟨start, [], rfl, bounds_of_timeless late⟩

/-- The world of this stream, but each sleep takes three seconds more than asked for. -/
def oversleeping (answers : Nat → Except ApiError Operation) :
    World Request Request.Answer Watch :=
  { streamed answers with
    sleep := fun duration watch => (watch.sleep duration).sleep (Duration.ofSeconds 3) }

theorem oversleeping_steady (answers : Nat → Except ApiError Operation) :
    (oversleeping answers).Steady Watch.time where
  answer request watch := by cases request <;> exact Nat.le_refl watch.time
  le_reading watch := Nat.le_refl watch.time
  reading_le watch := Nat.le_refl watch.time
  sleep duration watch := Nat.le_add_right _ _

theorem wait_bounds_oversleeping :
    (oversleeping slowly).Steady Watch.time ∧ 0 < hasty.interval.nanos ∧
    let run := (hasty.wait "resizing" { name := "op" }).run (oversleeping slowly) ⟨0, 0⟩
    run.result = some (.error (.timedOut "resizing" "resize" hasty.timeout)) ∧
    ∃ start rest, run.events = .clockRead start :: rest ∧ hasty.Bounds start rest run.result := by
  refine ⟨oversleeping_steady slowly, by decide, by decide +kernel, ?_⟩
  exact wait_bounds (oversleeping_steady slowly) hasty (by decide) "resizing" { name := "op" }
    ⟨0, 0⟩

end PollPolicy

end ManagedCluster
