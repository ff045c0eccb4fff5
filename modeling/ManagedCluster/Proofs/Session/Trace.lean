import ManagedCluster.Program

/-! # What a program can do, whoever answers it

A trace of a program is a list of events that some answers, clock readings and results lead to. Each
run in a world is a trace. What holds of all traces is shown piece by piece, along the binds of a
program.
-/

namespace ManagedCluster

section Splits

variable {α : Type} {first rest before after : List α} {element : α}

/-- An element that is not in the first part of a list comes after it. -/
theorem split_of_not_mem (split : first ++ rest = before ++ element :: after)
    (absent : element ∉ first) :
    ∃ between, before = first ++ between ∧ rest = between ++ element :: after := by
  rcases List.append_eq_append_iff.mp split with ⟨between, rfl, same⟩ | ⟨between, rfl, same⟩
  · exact ⟨between, rfl, same⟩
  · cases between with
    | nil => exact ⟨[], by simp, same.symm⟩
    | cons head tail =>
        cases same
        exact absurd (List.mem_append_right before List.mem_cons_self) absent

/-- An element that is not in the last part of a list comes before it. -/
theorem split_of_not_mem_right (split : first ++ rest = before ++ element :: after)
    (absent : element ∉ rest) :
    ∃ between, first = before ++ element :: between ∧ after = between ++ rest := by
  rcases List.append_eq_append_iff.mp split with ⟨between, rfl, same⟩ | ⟨between, rfl, same⟩
  · exact absurd (by simp [same]) absent
  · cases between with
    | nil =>
        rw [← List.nil_append rest, ← same] at absent
        exact absurd List.mem_cons_self absent
    | cons head tail =>
        cases same
        exact ⟨tail, rfl, rfl⟩

end Splits

namespace Program

variable {ρ : Type} {Answer : ρ → Type} {σ α β : Type}

/-- The program may go through the events to the result, or be cut off after them. -/
inductive Yields : Program ρ Answer α → List (Event ρ Answer) → Option α → Prop
  | done {result : α} : Yields (.done result) [] (some result)
  | send {request : ρ} {next : Answer request → Program ρ Answer α} {events : List (Event ρ Answer)}
      {out : Option α} (answer : Answer request) :
      Yields (next answer) events out →
      Yields (.send request next) (.answered request answer :: events) out
  | readClock {next : Nat → Program ρ Answer α} {events : List (Event ρ Answer)} {out : Option α}
      (time : Nat) :
      Yields (next time) events out → Yields (.readClock next) (.clockRead time :: events) out
  | sleep {duration : Duration} {next : Program ρ Answer α} {events : List (Event ρ Answer)}
      {out : Option α} :
      Yields next events out → Yields (.sleep duration next) (.slept duration :: events) out
  | cutOff : Yields .cutOff [] none

theorem run_yields (world : World ρ Answer σ) (program : Program ρ Answer α) (state : σ) :
    program.Yields (program.run world state).events (program.run world state).result := by
  induction program generalizing state with
  | done result => exact .done
  | send request next ih => exact .send _ (ih _ _)
  | readClock next ih => exact .readClock _ (ih _ _)
  | sleep duration next ih => exact .sleep (ih _)
  | cutOff => exact .cutOff

variable {events : List (Event ρ Answer)} {out : Option α}

@[simp] theorem yields_done_iff {result : α} :
    (done result : Program ρ Answer α).Yields events out ↔ events = [] ∧ out = some result := by
  constructor
  · rintro ⟨⟩
    exact ⟨rfl, rfl⟩
  · rintro ⟨rfl, rfl⟩
    exact .done

theorem yields_done_some_iff {result value : α} :
    (done result : Program ρ Answer α).Yields events (some value) ↔
      events = [] ∧ value = result := by
  rw [yields_done_iff, Option.some.injEq]

@[simp] theorem yields_cutOff_iff :
    (cutOff : Program ρ Answer α).Yields events out ↔ events = [] ∧ out = none := by
  constructor
  · rintro ⟨⟩
    exact ⟨rfl, rfl⟩
  · rintro ⟨rfl, rfl⟩
    exact .cutOff

theorem yields_send_iff {request : ρ} {next : Answer request → Program ρ Answer α} :
    (send request next).Yields events out ↔
      ∃ answer rest, events = .answered request answer :: rest ∧ (next answer).Yields rest out := by
  constructor
  · rintro (_ | ⟨answer, rest⟩)
    exact ⟨answer, _, rfl, rest⟩
  · rintro ⟨answer, rest, rfl, after⟩
    exact .send answer after

@[simp] theorem yields_ask_iff {request : ρ} {out : Option (Answer request)} :
    (ask request : Program ρ Answer _).Yields events out ↔
      ∃ answer, events = [.answered request answer] ∧ out = some answer := by
  simp only [ask, yields_send_iff, yields_done_iff]
  constructor
  · rintro ⟨answer, _, rfl, rfl, rfl⟩
    exact ⟨answer, rfl, rfl⟩
  · rintro ⟨answer, rfl, rfl⟩
    exact ⟨answer, [], rfl, rfl, rfl⟩

theorem Yields.bind {program : Program ρ Answer α} {next : α → Program ρ Answer β} {value : α}
    {before after : List (Event ρ Answer)} {out : Option β}
    (first : program.Yields before (some value)) (second : (next value).Yields after out) :
    (program >>= next).Yields (before ++ after) out := by
  induction program generalizing before with
  | done result =>
      cases first
      exact second
  | cutOff => cases first
  | send request rest ih =>
      obtain _ | ⟨answer, first⟩ := first
      exact .send answer (ih answer first)
  | readClock rest ih =>
      obtain _ | _ | ⟨time, first⟩ := first
      exact .readClock time (ih time first)
  | sleep duration rest ih =>
      obtain _ | _ | _ | first := first
      exact .sleep (ih first)

theorem Yields.bind_cutOff {program : Program ρ Answer α} {next : α → Program ρ Answer β}
    (first : program.Yields events none) : (program >>= next).Yields events none := by
  induction program generalizing events with
  | done result => cases first
  | cutOff =>
      cases first
      exact .cutOff
  | send request rest ih =>
      obtain _ | ⟨answer, first⟩ := first
      exact .send answer (ih answer first)
  | readClock rest ih =>
      obtain _ | _ | ⟨time, first⟩ := first
      exact .readClock time (ih time first)
  | sleep duration rest ih =>
      obtain _ | _ | _ | first := first
      exact .sleep (ih first)

/-- A trace of two programs is a trace of the first that is cut off, or one of each. -/
theorem yields_bind_iff {program : Program ρ Answer α} {next : α → Program ρ Answer β}
    {out : Option β} :
    (program >>= next).Yields events out ↔
      (program.Yields events none ∧ out = none) ∨
      ∃ value before after, program.Yields before (some value) ∧ (next value).Yields after out ∧
        events = before ++ after := by
  constructor
  · intro trace
    induction program generalizing events with
    | done value => exact .inr ⟨value, [], events, .done, trace, rfl⟩
    | cutOff =>
        obtain ⟨rfl, rfl⟩ := yields_cutOff_iff.mp trace
        exact .inl ⟨.cutOff, rfl⟩
    | send request rest ih =>
        obtain _ | ⟨answer, trace⟩ := trace
        rcases ih answer trace with ⟨first, rfl⟩ | ⟨value, before, after, first, second, rfl⟩
        · exact .inl ⟨.send answer first, rfl⟩
        · exact .inr ⟨value, _ :: before, after, .send answer first, second, rfl⟩
    | readClock rest ih =>
        obtain _ | _ | ⟨time, trace⟩ := trace
        rcases ih time trace with ⟨first, rfl⟩ | ⟨value, before, after, first, second, rfl⟩
        · exact .inl ⟨.readClock time first, rfl⟩
        · exact .inr ⟨value, _ :: before, after, .readClock time first, second, rfl⟩
    | sleep duration rest ih =>
        obtain _ | _ | _ | trace := trace
        rcases ih trace with ⟨first, rfl⟩ | ⟨value, before, after, first, second, rfl⟩
        · exact .inl ⟨.sleep first, rfl⟩
        · exact .inr ⟨value, _ :: before, after, .sleep first, second, rfl⟩
  · rintro (⟨first, rfl⟩ | ⟨value, before, after, first, second, rfl⟩)
    · exact first.bind_cutOff
    · exact first.bind second

theorem yields_bind_some {program : Program ρ Answer α} {next : α → Program ρ Answer β}
    {result : β} (trace : (program >>= next).Yields events (some result)) :
    ∃ value before after, program.Yields before (some value) ∧
      (next value).Yields after (some result) ∧ events = before ++ after := by
  rcases yields_bind_iff.mp trace with ⟨-, cut⟩ | found
  · cases cut
  · exact found

theorem yields_now_bind_iff {next : Nat → Program ρ Answer α} :
    (now >>= next).Yields events out ↔
      ∃ time rest, events = .clockRead time :: rest ∧ (next time).Yields rest out := by
  constructor
  · rintro (_ | _ | ⟨time, rest⟩)
    exact ⟨time, _, rfl, rest⟩
  · rintro ⟨time, rest, rfl, after⟩
    exact .readClock time after

theorem yields_pause_bind_iff {duration : Duration} {next : Unit → Program ρ Answer α} :
    (pause duration >>= next).Yields events out ↔
      ∃ rest, events = .slept duration :: rest ∧ (next ()).Yields rest out := by
  constructor
  · rintro (_ | _ | _ | rest)
    exact ⟨_, rfl, rest⟩
  · rintro ⟨rest, rfl, after⟩
    exact .sleep after

theorem yields_ask_bind_iff {request : ρ} {next : Answer request → Program ρ Answer α} :
    (ask request >>= next).Yields events out ↔
      ∃ answer rest, events = .answered request answer :: rest ∧ (next answer).Yields rest out :=
  yields_send_iff

/-- The request is among the events, however it was answered. -/
def Sent (events : List (Event ρ Answer)) (request : ρ) : Prop :=
  ∃ answer, .answered request answer ∈ events

section Sent

variable {request sent : ρ} {before after : List (Event ρ Answer)}

@[simp] theorem not_sent_nil : ¬ Sent ([] : List (Event ρ Answer)) request := by
  simp [Sent]

@[simp] theorem sent_append_iff :
    Sent (before ++ after) request ↔ Sent before request ∨ Sent after request := by
  simp [Sent, exists_or]

@[simp] theorem sent_answered_iff {answer : Answer sent} :
    Sent (.answered sent answer :: events) request ↔ request = sent ∨ Sent events request := by
  simp only [Sent, List.mem_cons, exists_or]
  refine or_congr_left ⟨?_, ?_⟩
  · rintro ⟨_, same⟩
    cases same
    rfl
  · rintro rfl
    exact ⟨answer, rfl⟩

@[simp] theorem sent_clockRead_iff {time : Nat} :
    Sent (.clockRead time :: events) request ↔ Sent events request := by
  simp [Sent]

@[simp] theorem sent_slept_iff {duration : Duration} :
    Sent (.slept duration :: events) request ↔ Sent events request := by
  simp [Sent]

end Sent

/-- Whoever answers, the program sends no other requests. -/
def OnlySends (allowed : ρ → Prop) (program : Program ρ Answer α) : Prop :=
  ∀ events out, program.Yields events out → ∀ request, Sent events request → allowed request

section OnlySends

variable {allowed : ρ → Prop}

theorem OnlySends.mono {program : Program ρ Answer α} {also : ρ → Prop}
    (sends : program.OnlySends allowed) (wider : ∀ request, allowed request → also request) :
    program.OnlySends also := fun events out trace request sent =>
  wider request (sends events out trace request sent)

theorem onlySends_done (result : α) : (done result : Program ρ Answer α).OnlySends allowed := by
  rintro events out trace request sent
  obtain ⟨rfl, -⟩ := yields_done_iff.mp trace
  exact absurd sent not_sent_nil

theorem onlySends_cutOff : (cutOff : Program ρ Answer α).OnlySends allowed := by
  rintro events out trace request sent
  obtain ⟨rfl, -⟩ := yields_cutOff_iff.mp trace
  exact absurd sent not_sent_nil

theorem onlySends_ask {request : ρ} (isAllowed : allowed request) :
    (ask request : Program ρ Answer _).OnlySends allowed := by
  rintro events out trace other sent
  obtain ⟨answer, rfl, -⟩ := yields_ask_iff.mp trace
  obtain rfl : other = request := by simpa using sent
  exact isAllowed

theorem onlySends_now : (now : Program ρ Answer Nat).OnlySends allowed := by
  rintro events out (_ | _ | ⟨time, ⟨⟩⟩) request sent
  simp at sent

theorem onlySends_pause {duration : Duration} :
    (pause duration : Program ρ Answer Unit).OnlySends allowed := by
  rintro events out (_ | _ | _ | ⟨⟨⟩⟩) request sent
  simp at sent

theorem OnlySends.bind {program : Program ρ Answer α} {next : α → Program ρ Answer β}
    (first : program.OnlySends allowed) (second : ∀ value, (next value).OnlySends allowed) :
    (program >>= next).OnlySends allowed := by
  intro events out trace request sent
  rcases yields_bind_iff.mp trace with
    ⟨cut, -⟩ | ⟨value, before, after, earlier, later, rfl⟩
  · exact first _ _ cut request sent
  · rcases sent_append_iff.mp sent with sent | sent
    · exact first _ _ earlier request sent
    · exact second value _ _ later request sent

end OnlySends

end Program

end ManagedCluster
