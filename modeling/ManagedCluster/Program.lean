import ManagedCluster.Duration.Basic

/-! # Programs that ask and wait

A program is a tree. Each node is done, sends a request and goes on with the answer, reads the
clock, or sleeps. Nothing is said of who answers: a world does, or a proof goes through all
answers. Programs are finite, so a loop without an end of its own is cut off somewhere. A time that
no clock can show cuts a program off too.
-/

namespace ManagedCluster

/-- The first time, in nanoseconds, that no clock can show. Clocks count seconds in 63 bits. -/
def clockLimit : Nat := Nat.pow 2 63 * 1000000000

/-- A program with the given requests and the answers that belong to them. -/
inductive Program (ρ : Type) (Answer : ρ → Type) (α : Type) where
  | done (result : α)
  | send (request : ρ) (next : Answer request → Program ρ Answer α)
  /-- Go on with the time that the clock shows, in nanoseconds. -/
  | readClock (next : Nat → Program ρ Answer α)
  | sleep (duration : Duration) (next : Program ρ Answer α)
  /-- The end without a result: of a loop that went on for too long, or at a time that no clock can
  show. -/
  | cutOff

/-- What a program does, and what it sees. -/
inductive Event (ρ : Type) (Answer : ρ → Type) where
  | answered (request : ρ) (answer : Answer request)
  | clockRead (time : Nat)
  | slept (duration : Duration)

/-- A world with states `σ` that answers requests and has a clock. -/
structure World (ρ : Type) (Answer : ρ → Type) (σ : Type) where
  answer (request : ρ) (state : σ) : Answer request × σ
  readClock (state : σ) : Nat × σ
  sleep (duration : Duration) (state : σ) : σ

/-- What comes of a program in a world. -/
structure Run (ρ : Type) (Answer : ρ → Type) (σ α : Type) where
  /-- The result, unless the program was cut off. -/
  result : Option α
  /-- The world afterwards. -/
  state : σ
  /-- What happened, in order. -/
  events : List (Event ρ Answer)

namespace Program

variable {ρ : Type} {Answer : ρ → Type} {σ α β : Type}

/-- One program after the other. -/
def bind : Program ρ Answer α → (α → Program ρ Answer β) → Program ρ Answer β
  | done result, next => next result
  | send request rest, next => send request fun answer => (rest answer).bind next
  | readClock rest, next => readClock fun time => (rest time).bind next
  | sleep duration rest, next => sleep duration (rest.bind next)
  | cutOff, _ => cutOff

instance : Monad (Program ρ Answer) where
  pure := done
  bind := bind

@[simp] theorem pure_eq_done (result : α) : (pure result : Program ρ Answer α) = done result := rfl

@[simp] theorem done_bind (result : α) (next : α → Program ρ Answer β) :
    (done result >>= next) = next result := rfl

@[simp] theorem send_bind (request : ρ) (rest : Answer request → Program ρ Answer α)
    (next : α → Program ρ Answer β) :
    (send request rest >>= next) = send request fun answer => rest answer >>= next := rfl

@[simp] theorem readClock_bind (rest : Nat → Program ρ Answer α)
    (next : α → Program ρ Answer β) :
    (readClock rest >>= next) = readClock fun time => rest time >>= next := rfl

@[simp] theorem sleep_bind (duration : Duration) (rest : Program ρ Answer α)
    (next : α → Program ρ Answer β) :
    (sleep duration rest >>= next) = sleep duration (rest >>= next) := rfl

@[simp] theorem cutOff_bind (next : α → Program ρ Answer β) :
    ((cutOff : Program ρ Answer α) >>= next) = cutOff := rfl

/-- The program that sends one request and returns its answer. -/
def ask (request : ρ) : Program ρ Answer (Answer request) := send request done

def now : Program ρ Answer Nat := readClock done

def pause (duration : Duration) : Program ρ Answer Unit := sleep duration (done ())

def run (world : World ρ Answer σ) : Program ρ Answer α → σ → Run ρ Answer σ α
  | done result, state => ⟨some result, state, []⟩
  | send request next, state =>
    let (answer, state) := world.answer request state
    let rest := (next answer).run world state
    { rest with events := .answered request answer :: rest.events }
  | readClock next, state =>
    let (time, state) := world.readClock state
    let rest := (next time).run world state
    { rest with events := .clockRead time :: rest.events }
  | sleep duration next, state =>
    let rest := next.run world (world.sleep duration state)
    { rest with events := .slept duration :: rest.events }
  | cutOff, state => ⟨none, state, []⟩

end Program

end ManagedCluster
