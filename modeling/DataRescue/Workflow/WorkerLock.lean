import DataRescue.Concurrency.Locking
import DataRescue.Workflow.Execution
import DataRescue.Workflow.Scopes
import Mathlib.Algebra.Order.BigOperators.Group.List

/-!
# The worker lock

Every API process has one worker lock. In a deployment of any number of processes, whose calls
interleave and which may crash and restart, whatever a process writes, sends out or notes down is done
by the thread that owns its lock (`worker_lock_exclusive`), and no set of running calls is a deadlock
(`calls_drain`).
-/

namespace DataRescue

open Python Concurrency

/-- What an operation is to the worker lock: everything recorded is done under it. -/
def Op.lockKind : Op → LockKind
  | .memory .acquire => .enter
  | .memory .release => .leave
  | op => if op.recorded then .guarded else .free

/-- The thread that owns the worker lock of a process. -/
def World.lockOwner (world : World) (process : Nat) : Option Nat := (world.memory process).workerLock

section

variable {service : Service} {environment : Environment} {pool : ServicePool}
  {caseId : String} {event : SchemaChangeEvent}

theorem Op.lockKind_cases {op : Op} (hacquire : op ≠ .memory .acquire)
    (hrelease : op ≠ .memory .release) : op.lockKind = .guarded ∨ op.lockKind = .free := by
  unfold Op.lockKind
  split
  · exact absurd rfl hacquire
  · exact absurd rfl hrelease
  · split_ifs
    · exact .inl rfl
    · exact .inr rfl

theorem Op.lockKind_of_working {op : Op} (h : op.working = true) :
    op.lockKind = .guarded ∨ op.lockKind = .free := by
  refine Op.lockKind_cases ?_ ?_
  · rintro rfl
    exact Bool.false_ne_true h
  · rintro rfl
    exact Bool.false_ne_true h

theorem withWorkerLock_brackets {α : Type} {body : Flow α}
    (h : body.Uses fun op => op.lockKind = .guarded ∨ op.lockKind = .free) :
    (withWorkerLock body).Brackets Op.lockKind false :=
  .enter rfl fun _ => h.inside fun _ => .leave rfl fun _ => .done _

theorem deduplicatedResponse_free {dedupKey : String} :
    (Service.deduplicatedResponse event dedupKey caseId).Uses fun op => op.lockKind = .free :=
  uses_deduplicatedResponse (fun _ _ _ => rfl) rfl

theorem ingestKeyed_brackets {dedupKey : String} :
    (service.ingestKeyed event dedupKey).Brackets Op.lockKind false := by
  have hlocked : (withWorkerLock (service.ingestLocked event dedupKey)).Brackets Op.lockKind false :=
    withWorkerLock_brackets (ingestLocked_working.mono fun _ h => Op.lockKind_of_working h)
  unfold Service.ingestKeyed
  generalize withWorkerLock (service.ingestLocked event dedupKey) = locked at hlocked ⊢
  have hlookup : (Flow.store (.findCaseForDedup dedupKey)).Uses fun op => op.lockKind = .free :=
    uses_store rfl
  refine hlookup.bind_brackets fun existing => ?_
  cases existing with
  | none => exact hlocked
  | some existing =>
    refine deduplicatedResponse_free.bind_brackets fun duplicate => ?_
    cases duplicate with
    | none => exact hlocked
    | some duplicate =>
      dsimp only
      split_ifs
      · exact .done _
      · refine .free rfl fun owned => ?_
        cases owned with
        | error exception => exact .done _
        | ok owned =>
          cases owned with
          | true => exact .done _
          | false => exact hlocked

theorem answer_brackets {α : Type} {flow : Flow α} (respond : α → Response)
    (h : flow.Brackets Op.lockKind false) :
    (do let value ← flow; pure (respond value) : Flow Response).Brackets Op.lockKind false := by
  refine h.andThen fun result => ?_
  cases result with
  | ok value => exact .done _
  | error exception => exact .done _

theorem program_brackets (command : Command) :
    (service.program command).Brackets Op.lockKind false := by
  cases command with
  | ingest event =>
    refine answer_brackets .ingested ?_
    rcases ingest_cases service event with ⟨-, heq⟩ | ⟨-, heq⟩
    · rw [heq]
      exact ingestKeyed_brackets
    · rw [heq]
      exact .done _
  | verifyDeployment caseId request =>
    refine answer_brackets .verified (withWorkerLock_brackets ?_)
    exact verifyDeploymentLocked_uses.mono fun _ h => Op.lockKind_of_working h.working
  | reset reason =>
    refine answer_brackets .reset (withWorkerLock_brackets (uses_store ?_))
    exact Op.lockKind_cases nofun nofun

/-! ### The lock of every process -/

theorem World.lockOwner_record {world : World} (actor : Actor Call) (op : Op)
    (answer : Except Exn op.Reply) (process : Nat) (memory : Memory) :
    ((world.record actor op answer).withMemory process memory).lockOwner =
      Function.update world.lockOwner process memory.workerLock := by
  funext other
  by_cases hother : other = process
  · subst hother
    rw [Function.update_self, World.lockOwner, World.withMemory_self]
  · rw [Function.update_of_ne hother]
    show (Function.update world.memory process memory other).workerLock = _
    rw [Function.update_of_ne hother]
    rfl

theorem exec_lockOwner {actor : Actor Call} {op : Op} {before after : World}
    {answer : Except Exn op.Reply} (hkind : op.lockKind = .guarded ∨ op.lockKind = .free)
    (hexec : op.exec environment actor before answer after) :
    after.lockOwner = before.lockOwner := by
  cases op with
  | store op =>
    rcases hexec with ⟨_, _, -, -, rfl⟩ | ⟨-, -, rfl⟩
    · rfl
    · rfl
  | memory op =>
    obtain ⟨reply, memory, -, hrun, rfl⟩ := hexec
    have hlock : memory.workerLock = (before.memory actor.call.process).workerLock := by
      cases op with
      | acquire => rcases hkind with hkind | hkind <;> cases hkind
      | release => rcases hkind with hkind | hkind <;> cases hkind
      | owned caseId => rw [hrun.2]
      | activate caseId => rw [show memory = _ from hrun]
      | deactivate caseId completed => rw [show memory = _ from hrun]
    rw [World.lockOwner_record, hlock]
    exact Function.update_eq_self ..
  | adapter op =>
    obtain ⟨-, rfl⟩ := hexec
    rfl

theorem Op.eq_acquire {op : Op} (h : op.lockKind = .enter) : op = .memory .acquire := by
  unfold Op.lockKind at h
  split at h
  · rfl
  · cases h
  · split_ifs at h

theorem Op.eq_release {op : Op} (h : op.lockKind = .leave) : op = .memory .release := by
  unfold Op.lockKind at h
  split at h
  · cases h
  · rfl
  · split_ifs at h

theorem workerLocking (service : Service) (environment : Environment) :
    Locking (service.system environment) Op.lockKind Call.process World.lockOwner where
  brackets call _ := program_brackets call.command
  enter actor op before answer after hop hexec := by
    obtain rfl := Op.eq_acquire hop
    obtain ⟨reply, memory, hanswer, ⟨hfree, rfl⟩, rfl⟩ := hexec
    refine ⟨hfree, ?_, fun other hother => ?_, reply, hanswer⟩
    · rw [World.lockOwner_record, Function.update_self]
    · rw [World.lockOwner_record, Function.update_of_ne hother]
  leave actor op before answer after hop hexec := by
    obtain rfl := Op.eq_release hop
    obtain ⟨reply, memory, hanswer, rfl, rfl⟩ := hexec
    refine ⟨?_, fun other hother => ?_, reply, hanswer⟩
    · rw [World.lockOwner_record, Function.update_self]
    · rw [World.lockOwner_record, Function.update_of_ne hother]
  plain _ _ _ _ _ hkind hexec := exec_lockOwner hkind hexec
  crash before killed after hcrash process := by
    obtain ⟨-, crashed, -, rfl, rfl⟩ := hcrash
    by_cases hprocess : process = crashed
    · subst hprocess
      refine .inl ⟨?_, fun _ hcall => hcall⟩
      rw [World.lockOwner, World.withMemory_self]
    · refine .inr ⟨?_, fun call hcall hkilled => hprocess (hcall.symm.trans hkilled)⟩
      show (Function.update before.memory crashed _ process).workerLock = _
      rw [Function.update_of_ne hprocess]
      rfl

theorem locked_of_reachable (hreach : service.Reachable environment pool) :
    Locked Op.lockKind Call.process World.lockOwner pool :=
  (workerLocking service environment).sound (fun _ => rfl) hreach

/-- Mutual exclusion in every process. In every run, with any number of processes, interleaved
calls, crashes and restarts: whatever a call writes, sends out or notes down, it does while it owns the
worker lock of its process, and of the calls of one process that are between taking and giving back
the lock there is only one. -/
theorem worker_lock_exclusive (hreach : service.Reachable environment pool) :
    (∀ tid thread, pool.threads tid = some thread → ∀ performed ∈ thread.path,
      performed.op.recorded = true →
        (performed.before.memory thread.call.process).workerLock = some tid) ∧
    (∀ finished ∈ pool.finished, ∀ performed ∈ finished.path, performed.op.recorded = true →
      (performed.before.memory finished.actor.call.process).workerLock =
        some finished.actor.tid) ∧
    ∀ tid tid' thread thread', pool.threads tid = some thread →
      pool.threads tid' = some thread' → thread.call.process = thread'.call.process →
      inside Op.lockKind thread.path = true → inside Op.lockKind thread'.path = true →
      tid = tid' := by
  have hlocked := locked_of_reachable hreach
  have hguarded : ∀ op : Op, op.recorded = true → op.lockKind = .guarded := by
    intro op hrecorded
    unfold Op.lockKind
    split
    · cases hrecorded
    · cases hrecorded
    · exact if_pos hrecorded
  refine ⟨fun tid thread hthread performed hperformed hrecorded => ?_,
    fun finished hfinished performed hperformed hrecorded => ?_,
    fun tid tid' thread thread' hthread hthread' hkey hinside hinside' => ?_⟩
  · exact (hlocked.guarded tid thread hthread).covered performed hperformed (hguarded _ hrecorded)
  · exact hlocked.finished finished hfinished performed hperformed (hguarded _ hrecorded)
  · exact Locking.exclusive hlocked hthread hthread' hkey hinside hinside'

theorem contended (service : Service) : ∃ pool, service.Reachable {} pool ∧
    (∃ thread, pool.threads 0 = some thread ∧ thread.call = ⟨0, .reset "drill"⟩ ∧
      inside Op.lockKind thread.path = true) ∧
    ∃ thread, pool.threads 1 = some thread ∧ thread.call = ⟨0, .reset "again"⟩ := by
  have hstarts : ∀ reason, (service.system {}).starts ⟨0, .reset reason⟩ := fun _ =>
    ⟨rfl, trivial⟩
  have hacquire : (service.system {}).exec ⟨0, ⟨0, .reset "drill"⟩⟩ (.memory .acquire) {} (.ok ())
      (World.withMemory {} 0 { workerLock := some 0 }) := ⟨(), _, rfl, ⟨rfl, rfl⟩, rfl⟩
  have hfirst : service.Reachable {} _ :=
    Relation.ReflTransGen.refl.tail (System.Step.start _ (hstarts "drill"))
  have htaken := hfirst.tail (System.Step.perform 0 rfl hacquire)
  have hwaiting := htaken.tail (System.Step.start _ (hstarts "again"))
  exact ⟨_, hwaiting, ⟨_, rfl, rfl, rfl⟩, ⟨_, rfl, rfl⟩⟩

/-- Only the first of two contending resets is inside. -/
theorem worker_lock_exclusive_contended : ∃ pool, connectedService.Reachable {} pool ∧
    (∃ thread, pool.threads 0 = some thread ∧ inside Op.lockKind thread.path = true) ∧
    ∃ thread, pool.threads 1 = some thread ∧ inside Op.lockKind thread.path = false := by
  obtain ⟨pool, hreach, ⟨first, hfirst, hcall, hinside⟩, ⟨second, hsecond, hcall'⟩⟩ :=
    contended connectedService
  refine ⟨pool, hreach, ⟨first, hfirst, hinside⟩, second, hsecond, ?_⟩
  by_contra houtside
  have hsame := (worker_lock_exclusive hreach).2.2 0 1 first second hfirst hsecond
    (by rw [hcall, hcall']) hinside ((Bool.not_eq_false _).mp houtside)
  cases hsame

/-! ### No deadlock -/

theorem Store.exists_freshId (store : Store) : ∃ fresh, store.FreshId fresh := by
  obtain ⟨bound, hbound⟩ : ∃ bound, ∀ row ∈ store.rows, row.eventId.length ≤ bound := by
    refine ⟨(store.rows.map fun row => row.eventId.length).sum, fun row hrow => ?_⟩
    exact List.single_le_sum (fun _ _ => Nat.zero_le _) _ (List.mem_map_of_mem hrow)
  have hlength : (String.ofList (List.replicate (bound + 1) 'e')).length = bound + 1 := by
    rw [String.length_ofList, List.length_replicate]
  refine ⟨String.ofList (List.replicate (bound + 1) 'e'), fun hempty => ?_, fun row hrow hsame => ?_⟩
  · rw [hempty] at hlength
    exact absurd hlength (Nat.succ_ne_zero bound).symm
  · have hrow := hbound row hrow
    rw [hsame, hlength] at hrow
    exact Nat.not_succ_le_self bound hrow

theorem enabled_of_answers (hanswers : ∀ op, ∃ answer, environment.answers op answer) :
    (service.system environment).Enabled Op.lockKind Call.process World.lockOwner := by
  intro actor op before hfree
  cases op with
  | store op =>
    obtain ⟨fresh, hfresh⟩ := before.store.exists_freshId
    exact ⟨_, _, .inl ⟨fresh, 0, hfresh, rfl, rfl⟩⟩
  | memory op =>
    cases op with
    | acquire => exact ⟨_, _, (), _, rfl, ⟨hfree rfl, rfl⟩, rfl⟩
    | owned caseId => exact ⟨_, _, _, _, rfl, ⟨rfl, rfl⟩, rfl⟩
    | release => exact ⟨_, _, (), _, rfl, rfl, rfl⟩
    | activate caseId => exact ⟨_, _, (), _, rfl, rfl, rfl⟩
    | deactivate caseId completed => exact ⟨_, _, (), _, rfl, rfl, rfl⟩
  | adapter op =>
    obtain ⟨answer, hanswer⟩ := hanswers op
    exact ⟨answer, _, hanswer, rfl⟩

/-- No deadlock. Whenever the adapters answer, every set of running calls of any number of
processes can be brought to its end, with no call lost and none started. -/
theorem calls_drain (hanswers : ∀ op, ∃ answer, environment.answers op answer)
    (hreach : service.Reachable environment pool) :
    ∃ pool', Relation.ReflTransGen (service.system environment).Step pool pool' ∧
      pool'.next = pool.next ∧ pool'.Quiet ∧
      (∀ finished ∈ pool.finished, finished ∈ pool'.finished) ∧
      ∀ tid thread, pool.threads tid = some thread →
        ∃ finished ∈ pool'.finished, finished.actor = ⟨tid, thread.call⟩ := by
  obtain ⟨pool', hcompletes, hquiet⟩ := (workerLocking service environment).drains
    (enabled_of_answers hanswers) (locked_of_reachable hreach)
  refine ⟨pool', hcompletes.steps, hcompletes.next, funext hquiet, hcompletes.ended,
    fun tid thread hthread => ?_⟩
  rcases hcompletes.running tid thread hthread with ⟨thread', hthread', -⟩ | hended
  · rw [hquiet tid] at hthread'
    cases hthread'
  · exact hended

/-- Two contending resets both end. -/
theorem calls_drain_contended : ∃ pool, connectedService.Reachable {} pool ∧ pool.Quiet ∧
    (∃ finished ∈ pool.finished, finished.actor = ⟨0, ⟨0, .reset "drill"⟩⟩) ∧
    ∃ finished ∈ pool.finished, finished.actor = ⟨1, ⟨0, .reset "again"⟩⟩ := by
  obtain ⟨pool, hreach, ⟨first, hfirst, hcall, -⟩, ⟨second, hsecond, hcall'⟩⟩ :=
    contended connectedService
  obtain ⟨pool', hsteps, -, hquiet, -, hended⟩ :=
    calls_drain (fun _ => ⟨.error .stopIteration, trivial⟩) hreach
  refine ⟨pool', hreach.trans hsteps, hquiet, ?_, ?_⟩
  · exact hcall ▸ hended 0 first hfirst
  · exact hcall' ▸ hended 1 second hsecond

end

end DataRescue
