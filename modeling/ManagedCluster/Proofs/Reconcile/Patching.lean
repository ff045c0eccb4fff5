import ManagedCluster.Proofs.Reconcile.Deletion

/-! # What an update sends

An update that would need another cluster sends nothing. Any other one sends its patch, waits for
the operation that it starts, and reads the cluster as the last thing. The patch is sent again only
after the answer that it came too often, and only once.
-/

namespace ManagedCluster

section Attempts

variable {policy : RetryPolicy} {request : Request} {attempt count : Nat} {events : Events}
  {answer : request.Answer}

/-- An answer that is followed by another attempt says that the request came too often. -/
theorem Attempts.limited_of_again {given : request.Answer} {before after : Events}
    (attempts : Attempts policy request attempt count events answer)
    (split : events = before ++ .answered request given :: after)
    (again : Program.Sent after request) : ∃ message, given = .error (.rateLimited message) := by
  induction attempts generalizing before with
  | final answer =>
      rcases before with _ | ⟨_, _ | ⟨_, _⟩⟩ <;> cases split
      exact absurd again Program.not_sent_nil
  | again message _ ih =>
      rcases before with _ | ⟨_, _ | ⟨_, before⟩⟩
      · cases split
        exact ⟨message, rfl⟩
      · cases split
      · cases split
        exact ih rfl

/-- All attempts but no pauses count for what every attempt is. -/
theorem Attempts.countP_eq (attempts : Attempts policy request attempt count events answer)
    {holds : Event Request Request.Answer → Bool}
    (sent : ∀ answer, holds (.answered request answer) = true)
    (slept : ∀ duration, holds (.slept duration) = false) : events.countP holds = count := by
  induction attempts with
  | final answer => simp [sent]
  | again message _ ih => simp [ih, sent, slept]

end Attempts

/-- A patch was sent. -/
def isPatching : Event Request Request.Answer → Bool
  | .answered (.patchCluster _ _ _) _ => true
  | _ => false

theorem countP_isPatching_eq_zero {events : Events}
    (unsent : ∀ target cluster mask, ¬ Program.Sent events (.patchCluster target cluster mask)) :
    events.countP isPatching = 0 := by
  refine List.countP_eq_zero.mpr ?_
  intro event member patches
  unfold isPatching at patches
  split at patches
  · next target cluster mask answer => exact unsent target cluster mask ⟨answer, member⟩
  · cases patches

namespace Reconciler

variable {reconciler : Reconciler} {live desired : Spec} {state : ClusterState}
  {target : ClusterRef} {patch : Patch} {events : Events} {out : Option Outcome}

/-- How the application of a patch may go on, also without an end. -/
inductive PatchTrace (reconciler : Reconciler) (target : ClusterRef) (patch : Patch) :
    Events → Option (Except PollError Operation) → Prop
  | notAccepted {count : Nat} {events : Events} {failure : ApiError} {error : PollError}
      (few : count ≤ 2)
      (attempts : Attempts (reconciler.retryPolicy updateAttempts)
        (.patchCluster target patch.cluster patch.mask) 1 count events (.error failure)) :
      PatchTrace reconciler target patch events (some (.error error))
  | awaited {count : Nat} {before rest : Events} {operation : Operation}
      {result : Option (Except PollError Operation)} (few : count ≤ 2)
      (attempts : Attempts (reconciler.retryPolicy updateAttempts)
        (.patchCluster target patch.cluster patch.mask) 1 count before (.ok operation))
      (looks : ∀ request, Program.Sent rest request → ∃ name, request = .getOperation name)
      (ends : (∃ finished, result = some (.ok finished)) ↔
        (operation.Succeeded ∨ SeenDone rest) ∧ HasDeadline reconciler.timeouts.update rest) :
      PatchTrace reconciler target patch (before ++ rest) result

theorem applyPatch_trace {result : Option (Except PollError Operation)}
    (applied : (reconciler.applyPatch desired target patch).Yields events result) :
    PatchTrace reconciler target patch events result := by
  have never (events : Events) : ¬ ((reconciler.retryPolicy updateAttempts).retry
      (Session.patchCluster target patch.cluster patch.mask)).Yields events none :=
    fun cut => not_retryFrom_cutOff cut
  rcases Program.yields_bind_iff.mp applied with
    ⟨cut, -⟩ | ⟨answer, before, rest, submitted, waiting, rfl⟩
  · exact absurd cut (not_submit_cutOff never)
  · obtain ⟨given, tries, rfl⟩ := submit_trace submitted
    obtain ⟨count, few, attempts, -⟩ := attempts_of_retry tries
    cases given with
    | error failure =>
        obtain ⟨rfl, rfl⟩ := Program.yields_done_iff.mp waiting
        rw [List.append_nil]
        exact .notAccepted few attempts
    | ok operation =>
        have looks (request : Request) (sent : Program.Sent rest request) :
            ∃ name, request = .getOperation name := PollPolicy.getOperation_of_wait waiting sent
        exact .awaited few attempts looks (waiting_of_wait waiting).isOk_iff

namespace PatchTrace

variable {result : Option (Except PollError Operation)}
  (trace : PatchTrace reconciler target patch events result)

include trace

theorem sent {request : Request} (asked : Program.Sent events request) :
    request = .patchCluster target patch.cluster patch.mask ∨
      ∃ name, request = .getOperation name := by
  cases trace with
  | notAccepted few attempts => exact .inl (attempts.sent_iff.mp asked)
  | awaited few attempts looks =>
      rcases Program.sent_append_iff.mp asked with asked | asked
      · exact .inl (attempts.sent_iff.mp asked)
      · exact .inr (looks request asked)

theorem asked : Program.Sent events (.patchCluster target patch.cluster patch.mask) := by
  cases trace with
  | notAccepted few attempts => exact attempts.sent_iff.mpr rfl
  | awaited few attempts =>
      exact Program.sent_append_iff.mpr (.inl (attempts.sent_iff.mpr rfl))

theorem countP_le : events.countP isPatching ≤ 2 := by
  cases trace with
  | notAccepted few attempts =>
      rwa [attempts.countP_eq (fun _ => rfl) fun _ => rfl]
  | awaited few attempts looks =>
      have none := countP_isPatching_eq_zero fun target cluster mask sent => by
        obtain ⟨name, same⟩ := looks _ sent
        cases same
      rwa [List.countP_append, attempts.countP_eq (fun _ => rfl) fun _ => rfl, none]

theorem isOk_iff : (∃ finished, result = some (.ok finished)) ↔
    SeenDone events ∧ HasDeadline reconciler.timeouts.update events := by
  cases trace with
  | notAccepted few attempts =>
      rw [attempts.seenDone_iff]
      simp [reported?]
  | awaited few attempts looks ends =>
      rw [ends, seenDone_append_iff, attempts.seenDone_iff,
        hasDeadline_append_iff attempts.firstReading?_eq]
      simp [reported?]

/-- A patch that is followed by another one was answered as one that came too often. -/
theorem limited_of_again {before after : Events} {given : Except ApiError Operation}
    (split : events =
      before ++ .answered (.patchCluster target patch.cluster patch.mask) given :: after)
    (again : Program.Sent after (.patchCluster target patch.cluster patch.mask)) :
    ∃ message, given = .error (.rateLimited message) := by
  cases trace with
  | notAccepted few attempts => exact attempts.limited_of_again split again
  | @awaited _ first rest _ _ few attempts looks =>
      -- Waiting sends no patch, so both of them are among the attempts.
      have unsent : ¬ Program.Sent rest (.patchCluster target patch.cluster patch.mask) := by
        intro sent
        obtain ⟨name, same⟩ := looks _ sent
        cases same
      obtain ⟨between, rfl, rfl⟩ :=
        split_of_not_mem_right split fun member => unsent ⟨given, member⟩
      rcases Program.sent_append_iff.mp again with again | again
      · exact attempts.limited_of_again rfl again
      · exact absurd again unsent

end PatchTrace

/-- How the update of a live cluster may go on if no other cluster is needed. -/
inductive LiveUpdate (reconciler : Reconciler) (live desired : Spec) (state : ClusterState) :
    Events → Option Outcome → Prop
  | nowhere {error : ReconcileError} (noTarget : reconciler.target desired = .error error) :
      LiveUpdate reconciler live desired state [] (some (.error error, state))
  | unpatched {target : ClusterRef} {answer : Except ApiError Report}
      (found : reconciler.target desired = .ok target) (nothing : live.patch? desired = none) :
      LiveUpdate reconciler live desired state [.answered (.getCluster target) answer]
        (some (afterRead desired state answer))
  | notFinished {target : ClusterRef} {patch : Patch} {events : Events} {out : Option Outcome}
      {result : Option (Except PollError Operation)}
      (found : reconciler.target desired = .ok target) (due : live.patch? desired = some patch)
      (applied : PatchTrace reconciler target patch events result)
      (unfinished : ∀ finished, result ≠ some (.ok finished)) :
      LiveUpdate reconciler live desired state events out
  | patched {target : ClusterRef} {patch : Patch} {events : Events} {finished : Operation}
      {answer : Except ApiError Report}
      (found : reconciler.target desired = .ok target) (due : live.patch? desired = some patch)
      (applied : PatchTrace reconciler target patch events (some (.ok finished))) :
      LiveUpdate reconciler live desired state
        (events ++ [.answered (.getCluster target) answer]) (some (afterRead desired state answer))

theorem refresh_update {events : Events} {target : ClusterRef}
    (found : reconciler.target desired = .ok target)
    (read : (reconciler.refresh desired state).Yields events out) :
    ∃ answer, events = [.answered (.getCluster target) answer] ∧
      out = some (afterRead desired state answer) := by
  rcases refresh_yields_iff.mp read with ⟨error, unknown, -⟩ | ⟨other, answer, same, rfl, rfl⟩
  · cases unknown.symm.trans found
  · cases same.symm.trans found
    exact ⟨answer, rfl, rfl⟩

theorem liveUpdate_of_update (recorded : state.live = some live)
    (kept : live.replacements desired = [])
    (trace : (reconciler.update desired state).Yields events out) :
    LiveUpdate reconciler live desired state events out := by
  unfold update at trace
  simp only [recorded, kept] at trace
  cases found : reconciler.target desired with
  | error error =>
      cases due : live.patch? desired with
      | none =>
          simp only [due] at trace
          rcases refresh_yields_iff.mp trace with ⟨other, same, rfl, rfl⟩ | ⟨target, _, same, _⟩
          · exact .nowhere same
          · cases same.symm.trans found
      | some patch =>
          simp only [due, found] at trace
          obtain ⟨rfl, rfl⟩ := Program.yields_done_iff.mp trace
          exact .nowhere found
  | ok target =>
      cases due : live.patch? desired with
      | none =>
          simp only [due] at trace
          obtain ⟨answer, rfl, rfl⟩ := refresh_update found trace
          exact .unpatched found due
      | some patch =>
          simp only [due, found] at trace
          rcases Program.yields_bind_iff.mp trace with
            ⟨cut, rfl⟩ | ⟨result, before, after, applied, trace, rfl⟩
          · exact .notFinished found due (applyPatch_trace cut) nofun
          · cases result with
            | error error =>
                obtain ⟨rfl, rfl⟩ := Program.yields_done_iff.mp trace
                rw [List.append_nil]
                exact .notFinished found due (applyPatch_trace applied) nofun
            | ok finished =>
                obtain ⟨answer, rfl, rfl⟩ := refresh_update found trace
                exact .patched found due (applyPatch_trace applied)

/-- The project in which the desired cluster is looked for is known. -/
def Resolves (reconciler : Reconciler) (desired : Spec) : Prop :=
  ∃ project, desired.projectOr reconciler.options.defaultProject = .ok project

theorem resolves_of_target (found : reconciler.target desired = .ok target) :
    reconciler.Resolves desired := by
  obtain ⟨resolved, -, -⟩ := target_eq_ok_iff.mp found
  exact ⟨target.project, resolved⟩

theorem not_resolves_of_target {error : ReconcileError}
    (noTarget : reconciler.target desired = .error error) : ¬ reconciler.Resolves desired := by
  rintro ⟨project, resolved⟩
  simp only [Reconciler.target, resolved] at noTarget
  cases noTarget

/-- What an update of a live cluster sends if no other cluster is needed. -/
structure Forwards (reconciler : Reconciler) (live desired : Spec) (events : Events) : Prop where
  patches_iff : (∃ target cluster mask, Program.Sent events (.patchCluster target cluster mask)) ↔
    (∃ patch, live.patch? desired = some patch) ∧ reconciler.Resolves desired
  /-- Nothing but the patch that is due goes out, to where the desired cluster is. -/
  patches : ∀ target cluster mask, Program.Sent events (.patchCluster target cluster mask) →
    reconciler.target desired = .ok target ∧
      ∃ patch, live.patch? desired = some patch ∧ cluster = patch.cluster ∧ mask = patch.mask
  twice : events.countP isPatching ≤ 2
  /-- The patch is sent again only if it was answered as one that came too often. -/
  again : ∀ before target cluster mask answer after,
    events = before ++ .answered (.patchCluster target cluster mask) answer :: after →
    after.any isPatching = true → ∃ message, answer = .error (.rateLimited message)
  /-- A patch is not waited for if no clock can show when that would be over. -/
  reads_iff : (∃ target, Program.Sent events (.getCluster target)) ↔
    reconciler.Resolves desired ∧ (live.patch? desired = none ∨
      SeenDone events ∧ HasDeadline reconciler.timeouts.update events)
  /-- The cluster is read as the last thing, and so only once. -/
  reads : ∀ before target answer after,
    events = before ++ .answered (.getCluster target) answer :: after → after = []
  only : ∀ request, Program.Sent events request →
    (∃ target cluster mask, request = .patchCluster target cluster mask) ∨
      (∃ target, request = .getCluster target) ∨ ∃ name, request = .getOperation name

theorem sent_of_any_isPatching (patches : events.any isPatching = true) :
    ∃ target cluster mask, Program.Sent events (.patchCluster target cluster mask) := by
  obtain ⟨event, member, isPatch⟩ := List.any_eq_true.mp patches
  unfold isPatching at isPatch
  split at isPatch
  · next target cluster mask answer => exact ⟨target, cluster, mask, answer, member⟩
  · cases isPatch

theorem forwards_nowhere {error : ReconcileError}
    (noTarget : reconciler.target desired = .error error) :
    reconciler.Forwards live desired [] where
  patches_iff := by simp [not_resolves_of_target noTarget]
  patches target cluster mask sent := absurd sent Program.not_sent_nil
  twice := Nat.zero_le 2
  again before target cluster mask answer after split := by simp at split
  reads_iff := by simp [not_resolves_of_target noTarget]
  reads before target answer after split := by simp at split
  only request sent := absurd sent Program.not_sent_nil

theorem forwards_unpatched {answer : Except ApiError Report}
    (found : reconciler.target desired = .ok target) (nothing : live.patch? desired = none) :
    reconciler.Forwards live desired [.answered (.getCluster target) answer] where
  patches_iff := by simp [nothing]
  patches other cluster mask sent := by simp at sent
  twice := Nat.zero_le 2
  again before other cluster mask given after split := by
    rcases before with _ | ⟨_, _ | ⟨_, _⟩⟩ <;> cases split
  reads_iff := by simp [nothing, resolves_of_target found]
  reads before other given after split := by
    rcases before with _ | ⟨_, _ | ⟨_, _⟩⟩ <;> cases split
    rfl
  only request sent := .inr (.inl ⟨target, by simpa using sent⟩)

section Patched

variable {result : Option (Except PollError Operation)}
  (trace : PatchTrace reconciler target patch events result)

include trace

theorem PatchTrace.sent_patch {other : ClusterRef} {cluster : Report} {mask : String}
    (sent : Program.Sent events (.patchCluster other cluster mask)) :
    other = target ∧ cluster = patch.cluster ∧ mask = patch.mask := by
  rcases trace.sent sent with same | ⟨name, same⟩
  · cases same
    exact ⟨rfl, rfl, rfl⟩
  · cases same

theorem PatchTrace.not_sent_read (other : ClusterRef) :
    ¬ Program.Sent events (.getCluster other) := by
  intro sent
  rcases trace.sent sent with same | ⟨name, same⟩ <;> cases same

theorem PatchTrace.again {before after : Events} {other : ClusterRef} {cluster : Report}
    {mask : String} {given : Except ApiError Operation}
    (split : events = before ++ .answered (.patchCluster other cluster mask) given :: after)
    (again : after.any isPatching = true) : ∃ message, given = .error (.rateLimited message) := by
  have first : Program.Sent events (.patchCluster other cluster mask) := ⟨given, by simp [split]⟩
  obtain ⟨rfl, rfl, rfl⟩ := trace.sent_patch first
  obtain ⟨next, nextCluster, nextMask, sent⟩ := sent_of_any_isPatching again
  obtain ⟨rfl, rfl, rfl⟩ : next = other ∧ nextCluster = patch.cluster ∧ nextMask = patch.mask := by
    apply trace.sent_patch
    rw [split, Program.sent_append_iff, Program.sent_answered_iff]
    exact .inr (.inr sent)
  exact trace.limited_of_again split sent

theorem forwards_notFinished (found : reconciler.target desired = .ok target)
    (due : live.patch? desired = some patch)
    (unfinished : ∀ finished, result ≠ some (.ok finished)) :
    reconciler.Forwards live desired events where
  patches_iff := by
    simp only [due, resolves_of_target found, Option.some.injEq, exists_eq', and_self, iff_true]
    exact ⟨_, _, _, trace.asked⟩
  patches other cluster mask sent := by
    obtain ⟨rfl, same⟩ := trace.sent_patch sent
    exact ⟨found, patch, due, same⟩
  twice := trace.countP_le
  again before other cluster mask given after split := trace.again split
  reads_iff := by
    have missed : ¬ (SeenDone events ∧ HasDeadline reconciler.timeouts.update events) := by
      rw [← trace.isOk_iff]
      exact fun ⟨finished, same⟩ => unfinished finished same
    simp [due, missed, trace.not_sent_read]
  reads before other given after split :=
    absurd ⟨given, by simp [split]⟩ (trace.not_sent_read other)
  only request sent := by
    rcases trace.sent sent with rfl | look
    · exact .inl ⟨_, _, _, rfl⟩
    · exact .inr (.inr look)

end Patched

theorem forwards_patched {finished : Operation} {answer : Except ApiError Report}
    (found : reconciler.target desired = .ok target) (due : live.patch? desired = some patch)
    (trace : PatchTrace reconciler target patch events (some (.ok finished))) :
    reconciler.Forwards live desired (events ++ [.answered (.getCluster target) answer]) where
  patches_iff := by
    simp only [due, resolves_of_target found, Option.some.injEq, exists_eq', and_self, iff_true]
    exact ⟨_, _, _, Program.sent_append_iff.mpr (.inl trace.asked)⟩
  patches other cluster mask sent := by
    obtain ⟨rfl, same⟩ := trace.sent_patch (by simpa using sent)
    exact ⟨found, patch, due, same⟩
  twice := by
    rw [List.countP_append]
    exact trace.countP_le
  again before other cluster mask given after split again := by
    obtain ⟨between, whole, rfl⟩ := split_of_not_mem_right split (by simp)
    refine trace.again whole ?_
    simpa [isPatching] using again
  reads_iff := by
    obtain ⟨seen, early⟩ := trace.isOk_iff.mp ⟨finished, rfl⟩
    have unread : firstReading? [.answered (.getCluster target) answer] = none := rfl
    simp [resolves_of_target found, seen, hasDeadline_append_iff_left unread, early]
  reads before other given after split := by
    have unread : .answered (.getCluster other) given ∉ events := fun member =>
      trace.not_sent_read other ⟨given, member⟩
    obtain ⟨between, rfl, last⟩ := split_of_not_mem split unread
    rcases between with _ | ⟨_, _ | ⟨_, _⟩⟩ <;> cases last
    rfl
  only request sent := by
    rcases Program.sent_append_iff.mp sent with sent | sent
    · rcases trace.sent sent with rfl | look
      · exact .inl ⟨_, _, _, rfl⟩
      · exact .inr (.inr look)
    · exact .inr (.inl ⟨target, by simpa using sent⟩)

/-- An update of a cluster that was never read, or that another one would have to replace, sends
nothing and says so. Every other update forwards its patch. -/
theorem update_forwards (trace : (reconciler.update desired state).Yields events out) :
    (state.live = none →
      events = [] ∧ out = some (.error (.notCreated desired.name), state)) ∧
    ∀ live, state.live = some live →
      (live.replacements desired ≠ [] → events = [] ∧ out = some
        (.error (.requiresReplacement desired.name (live.replacements desired)), state)) ∧
      (live.replacements desired = [] → reconciler.Forwards live desired events) := by
  refine ⟨?_, ?_⟩
  · intro missing
    simp only [update, missing, Program.pure_eq_done, Program.yields_done_iff] at trace
    exact trace
  · intro live recorded
    refine ⟨?_, ?_⟩
    · intro drifted
      unfold update at trace
      simp only [recorded] at trace
      cases changed : live.replacements desired with
      | nil => exact absurd changed drifted
      | cons first others =>
          simp only [changed, Program.pure_eq_done, Program.yields_done_iff] at trace
          exact trace
    · intro kept
      cases liveUpdate_of_update recorded kept trace with
      | nowhere noTarget => exact forwards_nowhere noTarget
      | unpatched found nothing => exact forwards_unpatched found nothing
      | notFinished found due applied unfinished =>
          exact forwards_notFinished applied found due unfinished
      | patched found due applied => exact forwards_patched found due applied

/-- The request for more workers. -/
def staffing : Request :=
  .patchCluster bareTarget { config := some { worker := some { numInstances := some 3 } } }
    "config.worker_config.num_instances"

/-- The patch is accepted at the second try, and the cluster is gone when it is read. -/
def staffedTwice : Events := [
  .answered staffing (.error (.rateLimited "slow down")),
  .slept usual.options.initialBackoff,
  .answered staffing (.ok { name := "op", done := true }),
  .clockRead 0,
  .clockRead 0,
  .answered (.getCluster bareTarget) (.error (.notFound "etl"))]

theorem update_forwards_staffed :
    (usual.update staffed ⟨some "etl", some bare⟩).Yields staffedTwice
        (some (.ok (), .empty)) ∧
      bare.replacements staffed = [] ∧ usual.Forwards bare staffed staffedTwice := by
  have kept : bare.replacements staffed = [] := by decide +kernel
  have trace : (usual.update staffed ⟨some "etl", some bare⟩).Yields staffedTwice
      (some (.ok (), .empty)) := by
    unfold update
    simp only [kept]
    exact .send _ (.sleep (.send _ (.readClock 0 (.readClock 0 (.send _ .done)))))
  exact ⟨trace, kept, ((update_forwards trace).2 bare rfl).2 kept⟩

end Reconciler

end ManagedCluster
