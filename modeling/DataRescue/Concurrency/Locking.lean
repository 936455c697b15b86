import DataRescue.Concurrency.RelyGuarantee
import Mathlib.Data.Finset.Card
import Mathlib.Data.Finset.Filter
import Mathlib.Data.Finset.Range

/-!
# Locks

Programs that take a lock and give it back, on every path and whatever the operations in between
answer, and that call the guarded operations in between only (`Brackets`). In a system of such
programs with one lock for each group of calls, every guarded operation is performed by the thread
that owns the lock of its group (`Locking.covered`), at most one thread of a group is inside
(`Locking.exclusive`), and no thread is stuck: every running call can be brought to its end
(`Locking.drains`).
-/

namespace Concurrency

section

variable {Op : Type} {Reply : Op → Type} {ε σ Call Key α β : Type}

/-- What an operation is to a lock. -/
inductive LockKind where
  | enter | leave | guarded | free
  deriving DecidableEq

/-- The program gives back what it takes. `held` says whether it starts with the lock. -/
inductive Program.Brackets (kind : Op → LockKind) : Bool → Program Op Reply ε α → Prop
  | done (result : Except ε α) : Brackets kind false (done result)
  | enter {op : Op} {next : Except ε (Reply op) → Program Op Reply ε α} (h : kind op = .enter)
      (hnext : ∀ reply, Brackets kind true (next (.ok reply))) : Brackets kind false (call op next)
  | leave {op : Op} {next : Except ε (Reply op) → Program Op Reply ε α} (h : kind op = .leave)
      (hnext : ∀ reply, Brackets kind false (next (.ok reply))) : Brackets kind true (call op next)
  | guarded {op : Op} {next : Except ε (Reply op) → Program Op Reply ε α} (h : kind op = .guarded)
      (hnext : ∀ answer, Brackets kind true (next answer)) : Brackets kind true (call op next)
  | free {held : Bool} {op : Op} {next : Except ε (Reply op) → Program Op Reply ε α}
      (h : kind op = .free) (hnext : ∀ answer, Brackets kind held (next answer)) :
      Brackets kind held (call op next)

namespace Program

variable {kind : Op → LockKind}

theorem Uses.brackets {held : Bool} {program : Program Op Reply ε α}
    {next : Except ε α → Program Op Reply ε β} (h : program.Uses fun op => kind op = .free)
    (hnext : ∀ result, (next result).Brackets kind held) :
    (program.andThen next).Brackets kind held := by
  induction h with
  | done result => exact hnext result
  | call hop _ ih => exact .free hop ih

theorem Uses.bind_brackets {program : Program Op Reply ε α} {next : α → Program Op Reply ε β}
    (h : program.Uses fun op => kind op = .free)
    (hnext : ∀ value, (next value).Brackets kind false) : (program >>= next).Brackets kind false := by
  refine h.brackets fun result => ?_
  cases result with
  | ok value => exact hnext value
  | error exception => exact .done _

theorem Uses.inside {program : Program Op Reply ε α} {next : Except ε α → Program Op Reply ε β}
    (h : program.Uses fun op => kind op = .guarded ∨ kind op = .free)
    (hnext : ∀ result, (next result).Brackets kind true) :
    (program.andThen next).Brackets kind true := by
  induction h with
  | done result => exact hnext result
  | call hop _ ih =>
    rcases hop with hguarded | hfree
    · exact .guarded hguarded ih
    · exact .free hfree ih

theorem Brackets.andThen {held : Bool} {program : Program Op Reply ε α}
    {next : Except ε α → Program Op Reply ε β} (h : program.Brackets kind held)
    (hnext : ∀ result, (next result).Brackets kind false) :
    (program.andThen next).Brackets kind held := by
  induction h with
  | done result => exact hnext result
  | enter hop _ ih => exact .enter hop ih
  | leave hop _ ih => exact .leave hop ih
  | guarded hop _ ih => exact .guarded hop ih
  | free hop _ ih => exact .free hop ih

end Program

/-- What has to be checked of a system with a lock for each key. -/
structure Locking (system : System Op Reply ε σ Call α) (kind : Op → LockKind) (key : Call → Key)
    (owner : σ → Key → Option Nat) : Prop where
  brackets : ∀ call, system.starts call → (system.program call).Brackets kind false
  enter : ∀ actor op before answer after, kind op = .enter →
    system.exec actor op before answer after →
    owner before (key actor.call) = none ∧ owner after (key actor.call) = some actor.tid ∧
      (∀ other, other ≠ key actor.call → owner after other = owner before other) ∧
      ∃ reply, answer = .ok reply
  leave : ∀ actor op before answer after, kind op = .leave →
    system.exec actor op before answer after →
    owner after (key actor.call) = none ∧
      (∀ other, other ≠ key actor.call → owner after other = owner before other) ∧
      ∃ reply, answer = .ok reply
  plain : ∀ actor op before answer after, kind op = .guarded ∨ kind op = .free →
    system.exec actor op before answer after → owner after = owner before
  /-- A crash hits whole groups, and frees their locks. -/
  crash : ∀ before killed after, system.crash before killed after → ∀ k,
    (owner after k = none ∧ ∀ call, key call = k → killed call) ∨
      (owner after k = owner before k ∧ ∀ call, key call = k → ¬killed call)

/-- Only the lock makes a thread wait. -/
def System.Enabled (system : System Op Reply ε σ Call α) (kind : Op → LockKind) (key : Call → Key)
    (owner : σ → Key → Option Nat) : Prop :=
  ∀ (actor : Actor Call) (op : Op) before,
    (kind op = .enter → owner before (key actor.call) = none) →
    ∃ answer after, system.exec actor op before answer after

/-- Whether the calls of a path leave the lock taken. -/
def inside (kind : Op → LockKind) (path : List (Performed Op Reply ε σ)) : Bool :=
  path.foldl (fun held performed =>
    match kind performed.op with
    | .enter => true
    | .leave => false
    | .guarded | .free => held) false

theorem inside_append (kind : Op → LockKind) (path : List (Performed Op Reply ε σ))
    (performed : Performed Op Reply ε σ) :
    inside kind (path ++ [performed]) =
      match kind performed.op with
      | .enter => true
      | .leave => false
      | .guarded | .free => inside kind path := by
  rw [inside, List.foldl_append]
  rfl

/-- The guarded calls of a path were made by the owner of the lock. -/
def Covered (kind : Op → LockKind) (owner : σ → Key → Option Nat) (k : Key) (tid : Nat)
    (path : List (Performed Op Reply ε σ)) : Prop :=
  ∀ performed ∈ path, kind performed.op = .guarded → owner performed.before k = some tid

theorem Covered.append {kind : Op → LockKind} {owner : σ → Key → Option Nat} {k : Key} {tid : Nat}
    {path : List (Performed Op Reply ε σ)} {performed : Performed Op Reply ε σ}
    (h : Covered kind owner k tid path)
    (hlast : kind performed.op = .guarded → owner performed.before k = some tid) :
    Covered kind owner k tid (path ++ [performed]) := by
  intro made hmade hguarded
  rcases List.mem_append.1 hmade with hold | hnew
  · exact h made hold hguarded
  · rw [List.mem_singleton.1 hnew] at hguarded ⊢
    exact hlast hguarded

/-- A live thread: its calls tell whether it holds the lock, and it gives back what it holds. -/
structure Guarded (kind : Op → LockKind) (owner : σ → Key → Option Nat) (k : Key) (tid : Nat)
    (held : Bool) (thread : Thread Op Reply ε σ Call α) : Prop where
  inside : inside kind thread.path = held
  covered : Covered kind owner k tid thread.path
  brackets : thread.rest.Brackets kind held

/-- The lock of a key is held by the live thread that has still to give it back. -/
structure Locked (kind : Op → LockKind) (key : Call → Key) (owner : σ → Key → Option Nat)
    (pool : Pool Op Reply ε σ Call α) : Prop where
  fresh : ∀ tid thread, pool.threads tid = some thread → tid < pool.next
  guarded : ∀ tid thread, pool.threads tid = some thread →
    Guarded kind owner (key thread.call) tid
      (decide (owner pool.shared (key thread.call) = some tid)) thread
  live : ∀ k tid, owner pool.shared k = some tid →
    ∃ thread, pool.threads tid = some thread ∧ key thread.call = k
  finished : ∀ finished ∈ pool.finished,
    Covered kind owner (key finished.actor.call) finished.actor.tid finished.path

namespace Locking

variable {system : System Op Reply ε σ Call α} {kind : Op → LockKind} {key : Call → Key}
  {owner : σ → Key → Option Nat} {pool pool' : Pool Op Reply ε σ Call α} {tid : Nat} {call : Call}
  {born : Nat} {path : List (Performed Op Reply ε σ)} {op : Op}
  {rest : Except ε (Reply op) → Program Op Reply ε α} {answer : Except ε (Reply op)} {after : σ}

/-- What one operation of a thread does to the locks. -/
inductive Effect (kind : Op → LockKind) (owner : σ → Key → Option Nat) (k : Key) (tid : Nat) (op : Op)
    (before after : σ) : Prop
  | enter (hop : kind op = .enter) (hfree : owner before k = none)
      (hafter : owner after k = some tid) (hothers : ∀ k', k' ≠ k → owner after k' = owner before k')
  | leave (hop : kind op = .leave) (hheld : owner before k = some tid)
      (hafter : owner after k = none) (hothers : ∀ k', k' ≠ k → owner after k' = owner before k')
  | plain (hafter : owner after = owner before)

theorem perform (h : Locking system kind key owner) (hlocked : Locked kind key owner pool)
    (hthread : pool.threads tid = some ⟨call, born, path, .call op rest⟩)
    (hexec : system.exec ⟨tid, call⟩ op pool.shared answer after) :
    Effect kind owner (key call) tid op pool.shared after ∧
      Guarded kind owner (key call) tid (decide (owner after (key call) = some tid))
        (⟨call, born, path ++ [⟨op, answer, pool.shared⟩], rest answer⟩ :
          Thread Op Reply ε σ Call α) := by
  obtain ⟨hinside, hcovered, hbrackets⟩ := hlocked.guarded tid _ hthread
  dsimp only at hinside hcovered hbrackets
  generalize hheld : decide (owner pool.shared (key call) = some tid) = held at hinside hbrackets
  cases hbrackets with
  | enter hop hnext =>
    obtain ⟨hfree, hafter, hothers, reply, rfl⟩ := h.enter _ _ _ _ _ hop hexec
    rw [show decide (owner after (key call) = some tid) = true from decide_eq_true hafter]
    refine ⟨.enter hop hfree hafter hothers, ?_, hcovered.append fun hguarded => ?_, hnext reply⟩
    · rw [inside_append, hop]
    · rw [hop] at hguarded
      cases hguarded
  | leave hop hnext =>
    obtain ⟨hafter, hothers, reply, rfl⟩ := h.leave _ _ _ _ _ hop hexec
    have hnone : decide (owner after (key call) = some tid) = false := by
      rw [show owner after (key call) = none from hafter]
      exact decide_eq_false (Option.some_ne_none tid).symm
    rw [hnone]
    refine ⟨.leave hop (of_decide_eq_true hheld) hafter hothers, ?_,
      hcovered.append fun _ => of_decide_eq_true hheld, hnext reply⟩
    rw [inside_append, hop]
  | guarded hop hnext =>
    have hafter := h.plain _ _ _ _ _ (.inl hop) hexec
    rw [hafter, hheld]
    refine ⟨.plain hafter, ?_, hcovered.append fun _ => of_decide_eq_true hheld, hnext answer⟩
    rw [inside_append, hop]
    exact hinside
  | free hop hnext =>
    have hafter := h.plain _ _ _ _ _ (.inr hop) hexec
    rw [hafter, hheld]
    refine ⟨.plain hafter, ?_, hcovered.append fun hguarded => ?_, hnext answer⟩
    · rw [inside_append, hop]
      exact hinside
    · rw [hop] at hguarded
      cases hguarded

theorem Effect.owner_cases {k k' : Key} {before after : σ} {holder : Nat}
    (h : Effect kind owner k tid op before after) (hholder : owner after k' = some holder) :
    (k' = k ∧ holder = tid) ∨ owner before k' = some holder := by
  by_cases hkey : k' = k
  · subst hkey
    cases h with
    | enter _ _ hafter _ =>
      rw [hafter] at hholder
      exact .inl ⟨rfl, (Option.some.inj hholder).symm⟩
    | leave _ _ hafter _ =>
      rw [hafter] at hholder
      cases hholder
    | plain hafter => exact .inr (hafter ▸ hholder)
  · cases h with
    | enter _ _ _ hothers => exact .inr (hothers k' hkey ▸ hholder)
    | leave _ _ _ hothers => exact .inr (hothers k' hkey ▸ hholder)
    | plain hafter => exact .inr (hafter ▸ hholder)

theorem Effect.other {k k' : Key} {before after : σ} {other : Nat} (hne : other ≠ tid)
    (h : Effect kind owner k tid op before after) :
    owner after k' = some other ↔ owner before k' = some other := by
  by_cases hkey : k' = k
  · subst hkey
    cases h with
    | enter _ hfree hafter _ =>
      rw [hafter, hfree]
      exact ⟨fun h => absurd (Option.some.inj h).symm hne,
        fun h => absurd h.symm (Option.some_ne_none _)⟩
    | leave _ hheld hafter _ =>
      rw [hafter, hheld]
      exact ⟨fun h => absurd h.symm (Option.some_ne_none _),
        fun h => absurd (Option.some.inj h).symm hne⟩
    | plain hafter => rw [hafter]
  · cases h with
    | enter _ _ _ hothers => rw [hothers k' hkey]
    | leave _ _ _ hothers => rw [hothers k' hkey]
    | plain hafter => rw [hafter]

theorem step (h : Locking system kind key owner) (hlocked : Locked kind key owner pool)
    (hstep : system.Step pool pool') : Locked kind key owner pool' := by
  cases hstep with
  | start call hstarts =>
    have hnone : owner pool.shared (key call) ≠ some pool.next := by
      intro hheld
      obtain ⟨thread, hthread, -⟩ := hlocked.live _ _ hheld
      exact Nat.lt_irrefl _ (hlocked.fresh _ _ hthread)
    refine ⟨fun tid thread hthread => ?_, fun tid thread hthread => ?_, fun k tid hheld => ?_,
      hlocked.finished⟩
    · rcases Discipline.update_some hthread with ⟨rfl, -⟩ | ⟨-, hold⟩
      · exact Nat.lt_succ_self _
      · exact Nat.lt_succ_of_lt (hlocked.fresh tid thread hold)
    · rcases Discipline.update_some hthread with ⟨rfl, hnew⟩ | ⟨-, hold⟩
      · obtain rfl := Option.some.inj hnew
        rw [show decide (owner pool.shared (key call) = some pool.next) = false from
          decide_eq_false hnone]
        exact ⟨rfl, by simp [Covered], h.brackets call hstarts⟩
      · exact hlocked.guarded tid thread hold
    · obtain ⟨thread, hthread, hkey⟩ := hlocked.live k tid hheld
      refine ⟨thread, ?_, hkey⟩
      dsimp only
      rw [Function.update_of_ne (Nat.ne_of_lt (hlocked.fresh tid thread hthread))]
      exact hthread
  | @perform tid call born path op rest answer after hthread hexec =>
    obtain ⟨heffect, hguarded⟩ := h.perform hlocked hthread hexec
    refine ⟨fun other thread hother => ?_, fun other thread hother => ?_, fun k holder hheld => ?_,
      hlocked.finished⟩
    · rcases Discipline.update_some hother with ⟨rfl, -⟩ | ⟨-, hold⟩
      · exact hlocked.fresh _ _ hthread
      · exact hlocked.fresh other thread hold
    · rcases Discipline.update_some hother with ⟨rfl, hnew⟩ | ⟨hne, hold⟩
      · obtain rfl := Option.some.inj hnew
        exact hguarded
      · have hsame : owner after (key thread.call) = some other ↔
            owner pool.shared (key thread.call) = some other := heffect.other hne
        dsimp only
        rw [decide_eq_decide.2 hsame]
        exact hlocked.guarded other thread hold
    · by_cases hself : holder = tid
      · subst hself
        refine ⟨_, Function.update_self .., ?_⟩
        rcases heffect.owner_cases hheld with ⟨hkey, -⟩ | hbefore
        · exact hkey.symm
        · obtain ⟨thread, hlive, hkey⟩ := hlocked.live k holder hbefore
          rw [hthread] at hlive
          rwa [← Option.some.inj hlive] at hkey
      · obtain ⟨thread, hlive, hkey⟩ := hlocked.live k holder ((heffect.other hself).1 hheld)
        refine ⟨thread, ?_, hkey⟩
        dsimp only
        rw [Function.update_of_ne hself]
        exact hlive
  | @finish tid call born path result hthread =>
    have hguarded := hlocked.guarded tid _ hthread
    have hfree : owner pool.shared (key call) ≠ some tid := by
      have hbrackets := hguarded.brackets
      dsimp only at hbrackets
      generalize hheld : decide (owner pool.shared (key call) = some tid) = held at hbrackets
      cases hbrackets with
      | done => exact of_decide_eq_false hheld
    refine ⟨fun other thread hother => ?_, fun other thread hother => ?_, fun k holder hheld => ?_,
      fun finished hfinished => ?_⟩
    · rcases Discipline.update_some hother with ⟨-, hnone⟩ | ⟨-, hold⟩
      · cases hnone
      · exact hlocked.fresh other thread hold
    · rcases Discipline.update_some hother with ⟨-, hnone⟩ | ⟨-, hold⟩
      · cases hnone
      · exact hlocked.guarded other thread hold
    · obtain ⟨thread, hlive, hkey⟩ := hlocked.live k holder hheld
      refine ⟨thread, ?_, hkey⟩
      by_cases hself : holder = tid
      · subst hself
        rw [hthread] at hlive
        rw [← Option.some.inj hlive] at hkey
        exact absurd (hkey ▸ hheld) hfree
      · dsimp only
        rw [Function.update_of_ne hself]
        exact hlive
    · rcases List.mem_append.1 hfinished with hold | hnew
      · exact hlocked.finished finished hold
      · rw [List.mem_singleton.1 hnew]
        exact hguarded.covered
  | @crash killed after hcrash =>
    have hcases := h.crash _ _ _ hcrash
    refine ⟨fun tid thread hthread => ?_, fun tid thread hthread => ?_, fun k tid hheld => ?_,
      hlocked.finished⟩
    · exact hlocked.fresh tid thread (Option.filter_eq_some_iff.1 hthread).1
    · obtain ⟨hlive, hspared⟩ := Option.filter_eq_some_iff.1 hthread
      rcases hcases (key thread.call) with ⟨-, hkilled⟩ | ⟨hsame, -⟩
      · have hspared : ¬killed thread.call := by simpa using hspared
        exact absurd (hkilled _ rfl) hspared
      · dsimp only
        rw [hsame]
        exact hlocked.guarded tid thread hlive
    · dsimp only at hheld
      rcases hcases k with ⟨hnone, -⟩ | ⟨hsame, hspared⟩
      · rw [hnone] at hheld
        cases hheld
      · rw [hsame] at hheld
        obtain ⟨thread, hlive, hkey⟩ := hlocked.live k tid hheld
        refine ⟨thread, Option.filter_eq_some_iff.2 ⟨hlive, ?_⟩, hkey⟩
        simpa using hspared _ hkey

theorem sound (h : Locking system kind key owner) {shared : σ} (hfree : ∀ k, owner shared k = none)
    (hreach : system.Reachable (System.init shared) pool) : Locked kind key owner pool := by
  induction hreach with
  | refl =>
    refine ⟨fun tid thread hthread => ?_, fun tid thread hthread => ?_, fun k tid hheld => ?_,
      fun finished hfinished => ?_⟩
    · cases hthread
    · cases hthread
    · rw [show owner (System.init shared).shared k = none from hfree k] at hheld
      cases hheld
    · cases hfinished
  | tail _ hstep ih => exact h.step ih hstep

/-- Mutual exclusion: of the running calls of one key, only one is inside. -/
theorem exclusive (hlocked : Locked kind key owner pool) {tid tid' : Nat}
    {thread thread' : Thread Op Reply ε σ Call α} (hthread : pool.threads tid = some thread)
    (hthread' : pool.threads tid' = some thread') (hkey : key thread.call = key thread'.call)
    (hinside : inside kind thread.path = true) (hinside' : inside kind thread'.path = true) :
    tid = tid' := by
  rw [(hlocked.guarded tid thread hthread).inside] at hinside
  rw [(hlocked.guarded tid' thread' hthread').inside] at hinside'
  have hheld := of_decide_eq_true hinside
  have hheld' := of_decide_eq_true hinside'
  rw [← hkey, hheld] at hheld'
  exact Option.some.inj hheld'

/-! ### Progress -/

/-- The calls of a pool that have ended or will. -/
structure Completes (system : System Op Reply ε σ Call α) (pool pool' : Pool Op Reply ε σ Call α) :
    Prop where
  steps : Relation.ReflTransGen system.Step pool pool'
  /-- No call is started. -/
  next : pool'.next = pool.next
  ended : ∀ finished ∈ pool.finished, finished ∈ pool'.finished
  /-- No call is lost. -/
  running : ∀ tid thread, pool.threads tid = some thread →
    (∃ thread', pool'.threads tid = some thread' ∧ thread'.call = thread.call) ∨
      ∃ finished ∈ pool'.finished, finished.actor = ⟨tid, thread.call⟩

theorem Completes.refl : Completes system pool pool :=
  ⟨.refl, rfl, fun _ h => h, fun _ thread h => .inl ⟨thread, h, rfl⟩⟩

theorem Completes.trans {pool'' : Pool Op Reply ε σ Call α} (h : Completes system pool pool')
    (h' : Completes system pool' pool'') : Completes system pool pool'' := by
  refine ⟨h.steps.trans h'.steps, h'.next.trans h.next,
    fun finished hfinished => h'.ended _ (h.ended _ hfinished), fun tid thread hthread => ?_⟩
  rcases h.running tid thread hthread with ⟨thread', hthread', hcall⟩ | ⟨finished, hfinished, hactor⟩
  · have hrunning := h'.running tid thread' hthread'
    rw [hcall] at hrunning
    exact hrunning
  · exact .inr ⟨finished, h'.ended _ hfinished, hactor⟩

theorem completes_step (hstep : system.Step pool pool') (hnext : pool'.next = pool.next)
    (hended : ∀ finished ∈ pool.finished, finished ∈ pool'.finished)
    (hothers : ∀ other, other ≠ tid → pool'.threads other = pool.threads other)
    {thread : Thread Op Reply ε σ Call α} (hthread : pool.threads tid = some thread)
    (hself : (∃ thread', pool'.threads tid = some thread' ∧ thread'.call = thread.call) ∨
      ∃ finished ∈ pool'.finished, finished.actor = ⟨tid, thread.call⟩) :
    Completes system pool pool' := by
  refine ⟨.single hstep, hnext, hended, fun other thread' hother => ?_⟩
  by_cases hne : other = tid
  · subst hne
    rw [hthread] at hother
    obtain rfl := Option.some.inj hother
    exact hself
  · rw [← hothers other hne] at hother
    exact .inl ⟨thread', hother, rfl⟩

theorem complete_thread (h : Locking system kind key owner)
    (henabled : system.Enabled kind key owner) {program : Program Op Reply ε α}
    (hlocked : Locked kind key owner pool)
    (hthread : pool.threads tid = some ⟨call, born, path, program⟩)
    (hfree : owner pool.shared (key call) = none ∨ owner pool.shared (key call) = some tid) :
    ∃ pool', Completes system pool pool' ∧ Locked kind key owner pool' ∧
      pool'.threads = Function.update pool.threads tid none := by
  induction program generalizing pool path with
  | done result =>
    have hstep : system.Step pool _ := .finish tid hthread
    refine ⟨_, ?_, h.step hlocked hstep, rfl⟩
    refine completes_step hstep rfl (fun _ hmem => List.mem_append_left _ hmem)
      (fun other hne => Function.update_of_ne hne ..) hthread (.inr ?_)
    exact ⟨_, List.mem_append_right _ (List.mem_singleton_self _), rfl⟩
  | call op next ih =>
    -- a thread that waits for the lock does not hold it
    have hguard : kind op = .enter → owner pool.shared (key call) = none := by
      intro hop
      have hbrackets := (hlocked.guarded tid _ hthread).brackets
      dsimp only at hbrackets
      generalize hheld : decide (owner pool.shared (key call) = some tid) = held at hbrackets
      cases hbrackets with
      | enter => exact hfree.resolve_right (of_decide_eq_false hheld)
      | leave hother | guarded hother | free hother =>
        rw [hop] at hother
        cases hother
    obtain ⟨answer, after, hexec⟩ := henabled ⟨tid, call⟩ op pool.shared hguard
    have hstep := System.Step.perform tid hthread hexec
    have hafter : owner after (key call) = none ∨ owner after (key call) = some tid := by
      cases (h.perform hlocked hthread hexec).1 with
      | enter _ _ hafter _ => exact .inr hafter
      | leave _ _ hafter _ => exact .inl hafter
      | plain hafter =>
        rw [hafter]
        exact hfree
    obtain ⟨pool', hcompletes, hlocked', hthreads⟩ :=
      ih answer (h.step hlocked hstep) (Function.update_self ..) hafter
    refine ⟨pool', ?_, hlocked', ?_⟩
    · refine (completes_step hstep rfl (fun _ hmem => hmem)
        (fun other hne => Function.update_of_ne hne ..) hthread (.inl ?_)).trans hcompletes
      exact ⟨_, Function.update_self .., rfl⟩
    · rw [hthreads]
      exact Function.update_idem ..

/-- The number of the running calls. -/
def running (pool : Pool Op Reply ε σ Call α) : Nat :=
  ((Finset.range pool.next).filter fun tid => (pool.threads tid).isSome = true).card

theorem running_update (hbound : tid < pool.next) (hlive : (pool.threads tid).isSome = true)
    (hnext : pool'.next = pool.next)
    (hthreads : pool'.threads = Function.update pool.threads tid none) :
    running pool' < running pool := by
  rw [running, running, hnext, hthreads]
  refine Finset.card_lt_card (Finset.ssubset_iff_of_subset ?_ |>.2 ⟨tid, ?_, ?_⟩)
  · intro other hother
    obtain ⟨hrange, hsome⟩ := Finset.mem_filter.1 hother
    by_cases hself : other = tid
    · rw [hself, Function.update_self] at hsome
      cases hsome
    · rw [Function.update_of_ne hself] at hsome
      exact Finset.mem_filter.2 ⟨hrange, hsome⟩
  · exact Finset.mem_filter.2 ⟨Finset.mem_range.2 hbound, hlive⟩
  · intro hmem
    have hsome := (Finset.mem_filter.1 hmem).2
    rw [Function.update_self] at hsome
    cases hsome

/-- No deadlock: every running call can be brought to its end. -/
theorem drains (h : Locking system kind key owner) (henabled : system.Enabled kind key owner)
    (hlocked : Locked kind key owner pool) :
    ∃ pool', Completes system pool pool' ∧ ∀ tid, pool'.threads tid = none := by
  induction hcount : running pool using Nat.strongRecOn generalizing pool with
  | _ count ih =>
    by_cases hquiet : ∀ tid, pool.threads tid = none
    · exact ⟨pool, .refl, hquiet⟩
    · obtain ⟨tid, hlive⟩ := not_forall.1 hquiet
      obtain ⟨thread, hthread⟩ := Option.ne_none_iff_exists'.1 hlive
      -- the owner of the lock goes first
      have hunblocked : ∃ tid thread, pool.threads tid = some thread ∧
          (owner pool.shared (key thread.call) = none ∨
            owner pool.shared (key thread.call) = some tid) := by
        cases howner : owner pool.shared (key thread.call) with
        | none => exact ⟨tid, thread, hthread, .inl howner⟩
        | some holder =>
          obtain ⟨thread', hthread', hkey⟩ := hlocked.live _ holder howner
          exact ⟨holder, thread', hthread', .inr (hkey ▸ howner)⟩
      obtain ⟨first, ⟨call, born, path, program⟩, hfirst, hfree⟩ := hunblocked
      obtain ⟨pool', hcompletes, hlocked', hthreads⟩ := h.complete_thread henabled hlocked hfirst hfree
      have hless : running pool' < count := by
        rw [← hcount]
        refine running_update (hlocked.fresh _ _ hfirst) ?_ hcompletes.next hthreads
        rw [hfirst]
        rfl
      obtain ⟨pool'', hcompletes', hquiet'⟩ := ih _ hless hlocked' rfl
      exact ⟨pool'', hcompletes.trans hcompletes', hquiet'⟩

end Locking

end

end Concurrency
