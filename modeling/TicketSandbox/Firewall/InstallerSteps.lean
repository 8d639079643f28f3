import TicketSandbox.Firewall.InstallerInvariants

namespace TicketSandbox.Firewall

/-!
# Every transaction keeps the journal in step

Each transaction of an installation, each call on the host and each recovery
that is permitted keeps what `System.Kept` says.
-/

open TicketSandbox.Runtime (Digest RuntimeApproval Uuid)
open TicketSandbox.Sandbox (Timestamp)

variable {db next : NetworkStore} {approvalUuid request failedJob : Uuid}
  {operation : Operation} {host : NetworkHost} {reached : List Uuid}
  {ack : ApplyAck} {old : NetworkState} {sys : System}
  {frame : Option Ongoing} {approval : NetworkApproval} {rules : List Command}
  {expectedGeneration : Nat} {digest : Digested → Digest}
  {binding : NetworkBinding} {now : Timestamp} {call : Install}

namespace NetworkStore

/-! ## Rows that are found -/

variable {id : Uuid} {change : Job → Job}

theorem job?_some
    {job : Job} (found : db.job? id = some job) : job ∈ db.jobs ∧ job.id = id :=
  ⟨List.mem_of_find?_eq_some found, by simpa using List.find?_some found⟩

theorem job?_none
    (absent : db.job? id = none) : ∀ job ∈ db.jobs, job.id ≠ id := by
  intro job member same
  have differs := List.find?_eq_none.mp absent job member
  exact differs (by simpa using same)

theorem state?_some
    {state : NetworkState} (found : db.state? approvalUuid = some state) :
    state ∈ db.states ∧ state.approval = approvalUuid :=
  ⟨List.mem_of_find?_eq_some found, by simpa using List.find?_some found⟩

theorem state?_none (absent : db.state? approvalUuid = none) :
    ∀ state ∈ db.states, state.approval ≠ approvalUuid := by
  intro state member same
  have differs := List.find?_eq_none.mp absent state member
  exact differs (by simpa using same)

/-- A state is found under its approval. -/
theorem Keyed.state?
    (keyed : db.Keyed) {state : NetworkState} (member : state ∈ db.states) :
    db.state? state.approval = some state := by
  cases found : db.state? state.approval with
  | none => exact absurd rfl (state?_none found state member)
  | some other =>
      obtain ⟨otherMember, same⟩ := state?_some found
      rw [Rows.eq_of_key keyed.states otherMember member same]

theorem hasOpenJob_false (settled : db.hasOpenJob = false) :
    ∀ job ∈ db.jobs, job.status = .verified := by
  intro job member
  have closed := List.any_eq_false.mp settled job member
  cases status : job.status with
  | dispatched => simp [status] at closed
  | quarantined => simp [status] at closed
  | verified => rfl

theorem mem_started :
    (id, approvalUuid, operation) ∈ db.started ↔ ∃ job ∈ db.jobs,
        job.id = id ∧ job.approval = approvalUuid ∧
          job.operation = operation := by
  simp [started]

theorem id_mem_of_started (entry : (id, approvalUuid, operation) ∈ db.started) :
    id ∈ db.jobs.map Job.id := by
  obtain ⟨job, member, rfl, _⟩ := mem_started.mp entry
  exact List.mem_map_of_mem member

theorem started_modify (kept : ∀ job,
        (change job).id = job.id ∧ (change job).approval = job.approval ∧
          (change job).operation = job.operation) :
    (Rows.modify Job.id id change db.jobs).map
        (fun job => (job.id, job.approval, job.operation)) =
      db.started := by
  refine Rows.map_modify ?_
  intro job _ _
  obtain ⟨sameId, sameApproval, sameOperation⟩ := kept job
  simp only [sameId, sameApproval, sameOperation]

/-! ## Keys -/

theorem Keyed.modify
    (keyed : db.Keyed) {changeState : NetworkState → NetworkState}
    (jobs : next.jobs = Rows.modify Job.id id change db.jobs) (states :
      next.states =
        Rows.modify NetworkState.approval approvalUuid changeState db.states)
    (sameId : ∀ job, (change job).id = job.id)
    (sameApproval : ∀ state, (changeState state).approval = state.approval)
    (receipt : ∀ job ∈ db.jobs, job.id = id →
        ((change job).receipt ≠ none ↔ (change job).status = .verified))
    (intents : next.intents = db.intents)
    (readbacks : ∀ other, Documents.get? next.readbacks other ≠ none →
        other ∈ db.jobs.map Job.id)
    (receipts : ∀ other, Documents.get? next.receipts other ≠ none →
        other ∈ db.jobs.map Job.id) :
    next.Keyed := by
  have sameIds : next.jobs.map Job.id = db.jobs.map Job.id := by
    rw [jobs]
    exact Rows.map_modify fun job _ _ => sameId job
  have sameApprovals : next.states.map NetworkState.approval =
        db.states.map NetworkState.approval := by
    rw [states]
    exact Rows.map_modify fun state _ _ => sameApproval state
  constructor
  · rw [sameIds]
    exact keyed.jobs
  · rw [sameApprovals]
    exact keyed.states
  · intro job member
    rw [jobs] at member
    obtain ⟨old, oldMember, ⟨same, rfl⟩ | ⟨_, rfl⟩⟩ := Rows.mem_modify.mp member
    · exact receipt old oldMember same
    · exact keyed.receipt job oldMember
  · rw [intents, sameIds]
    exact keyed.intents
  · rw [sameIds]
    exact readbacks
  · rw [sameIds]
    exact receipts

end NetworkStore

/-! ## The trace -/

theorem Traced.store
    (traced : Traced db host reached) (started : db.started ⊆ next.started)
    (states : db.states.map NetworkState.approval ⊆
        next.states.map NetworkState.approval)
    (ownerships : ∀ id, Documents.get? next.ownerships id ≠ none →
        Documents.get? db.ownerships id ≠ none ∨
          id ∈ host.trace.map ApplyAck.contextUuid) :
    Traced next host reached where
  generation := traced.generation
  numbered := traced.numbered
  contexts := traced.contexts
  once := traced.once
  called := traced.called
  dispatched := by
    intro id member
    obtain ⟨job, isJob, rfl⟩ := List.mem_map.mp (traced.dispatched id member)
    have entry := NetworkStore.mem_started.mpr ⟨job, isJob, rfl, rfl, rfl⟩
    exact NetworkStore.id_mem_of_started (started entry)
  job := by
    intro ack member
    obtain ⟨operation, entry⟩ := traced.job ack member
    exact ⟨operation, started entry⟩
  owner := traced.owner
  unowned := traced.unowned
  state := fun ack member => states (traced.state ack member)
  ownerships := by
    intro id found
    rcases ownerships id found with before | isTraced
    · exact traced.ownerships id before
    · exact isTraced

theorem NetworkHost.lastApplied?_of_last
    (last : host.trace.getLast? = some ack) :
    host.lastApplied? ack.ownerUuid = some ack := by
  obtain ⟨early, split⟩ := List.getLast?_eq_some_iff.mp last
  simp [NetworkHost.lastApplied?, split, List.filter_append]

theorem NetworkHost.lastApplied?_none
    (absent : ∀ ack ∈ host.trace, ack.ownerUuid ≠ approvalUuid) :
    host.lastApplied? approvalUuid = none := by
  have empty :
      (host.trace.filter fun ack => ack.ownerUuid = approvalUuid) = [] := by
    refine List.filter_eq_nil_iff.mpr ?_
    intro ack member
    simpa using absent ack member
  rw [NetworkHost.lastApplied?, empty]
  rfl

theorem Traced.le_generation
    (traced : Traced db host reached) (member : ack ∈ host.trace) :
    ack.generation ≤ host.generation := by
  rw [traced.generation, ← traced.numbered.largest]
  exact Rows.le_largest ApplyAck.generation member

theorem Traced.last_generation
    (traced : Traced db host reached) (last : host.trace.getLast? = some ack) :
    ack.generation = host.generation := by
  obtain ⟨early, split⟩ := List.getLast?_eq_some_iff.mp last
  have numbered := traced.numbered
  rw [split] at numbered
  rw [numbered.split.2, traced.generation, split, List.length_append]
  rfl

/-! ## Counts and stages -/

variable {state : NetworkState}

theorem IsCounted.same (counted : IsCounted db host old)
    (ownerships : next.ownerships = db.ownerships)
    (approval : state.approval = old.approval)
    (generation : state.generation = old.generation) :
    IsCounted next host state := by
  simp only [IsCounted, Unrecorded, ownerships, approval, generation] at *
  exact counted

theorem IsStaged.same
    (staged : IsStaged db host old) (started : db.started ⊆ next.started)
    (approval : state.approval = old.approval)
    (stage : state.stage = old.stage) :
    IsStaged next host state := by
  simp only [IsStaged, approval, stage] at *
  cases last : host.lastApplied? old.approval with
  | none => simpa only [last] using staged
  | some ack =>
      simp only [last] at staged
      obtain ⟨operation, entry, same⟩ := staged
      exact ⟨operation, started entry, same⟩

/-! ## Registration and dispatch -/

theorem Traced.owner_state
    (traced : Traced db host reached) (owned : host.owner = some approvalUuid) :
    approvalUuid ∈ db.states.map NetworkState.approval := by
  cases shape : host.trace with
  | nil =>
      rw [traced.unowned shape] at owned
      cases owned
  | cons ack rest =>
      have member : ack ∈ host.trace := by
        rw [shape]
        exact List.mem_cons_self
      have sameOwner := traced.owner ack member
      rw [owned, Option.some.injEq] at sameOwner
      rw [sameOwner]
      exact traced.state ack member

namespace System

theorem Kept.reframe
    (kept : sys.Kept) (framed : IsFramed sys.store sys.host sys.reached frame) :
    Kept { sys with frame := frame } where
  keyed := kept.keyed
  registered := kept.registered
  traced := kept.traced
  counted := kept.counted
  staged := kept.staged
  framed := framed

/-- A registration keeps the invariant. -/
theorem Kept.register
    (kept : sys.Kept) (idle : sys.frame = none) {runtime : RuntimeApproval}
    {bootstrap active : List Command} :
    (sys.register approval runtime bootstrap active now).Kept := by
  unfold System.register
  split
  · rename_i admitted
    obtain ⟨_, _, _, _, _, _, _, _, _, _, _, _, _, bootstrapRules,
      activeRules⟩ := admitted
    cases registered : sys.store.register approval bootstrap active with
    | error failure => exact kept
    | ok store =>
        obtain ⟨approvals, bootstraps, actives, states, approvalPut,
          bootstrapPut, activePut, added, rfl⟩ :=
          NetworkStore.register_ok registered
        have bootstrapTables := approvedRules_tables bootstrapRules
        have activeTables := approvedRules_tables activeRules
        have statesKept : sys.store.states ⊆ states := by
          rcases added with ⟨rfl, _⟩ | ⟨rfl, _⟩
          · exact List.Subset.refl _
          · exact List.subset_append_left _ _
        have isNew : ∀ state ∈ states, state ∈ sys.store.states ∨
                state = ⟨approval.approvalUuid, .new, 0, false⟩ ∧
                  approval.approvalUuid ∉
                    sys.store.states.map NetworkState.approval := by
          intro state member
          rcases added with ⟨rfl, _⟩ | ⟨rfl, absent⟩
          · exact .inl member
          · rcases List.mem_append.mp member with before | isAdded
            · exact .inl before
            · refine .inr ⟨List.mem_singleton.mp isAdded, ?_⟩
              intro present
              obtain ⟨old, oldMember, same⟩ := List.mem_map.mp present
              exact NetworkStore.state?_none absent old oldMember same
        refine ⟨?_, ?_, ?_, ?_, ?_, ?_⟩
        · refine { kept.keyed with states := ?_ }
          rcases added with ⟨rfl, _⟩ | ⟨rfl, absent⟩
          · exact kept.keyed.states
          · exact Rows.nodup_append_new kept.keyed.states
              (NetworkStore.state?_none absent)
        · constructor
          · intro id rules found
            rcases Documents.get?_put?_cases bootstrapPut found
              with before | ⟨rfl, rfl⟩
            · exact kept.registered.bootstraps id rules before
            · exact bootstrapTables
          · intro id rules found
            rcases Documents.get?_put?_cases activePut found
              with before | ⟨rfl, rfl⟩
            · exact kept.registered.actives id rules before
            · exact activeTables
          · intro id stored found
            rcases Documents.get?_put?_cases approvalPut found
              with before | ⟨rfl, rfl⟩
            · obtain ⟨present, hasState⟩ :=
                kept.registered.complete id stored before
              obtain ⟨rules, isRules⟩ := Option.ne_none_iff_exists'.mp present
              refine ⟨?_, List.map_subset _ statesKept hasState⟩
              change Documents.get? bootstraps id ≠ none
              rw [Documents.get?_put?_of_some bootstrapPut isRules]
              exact Option.some_ne_none rules
            · refine ⟨?_, ?_⟩
              · change Documents.get? bootstraps _ ≠ none
                rw [Documents.get?_put?_self bootstrapPut]
                exact Option.some_ne_none _
              · rcases added with ⟨rfl, present⟩ | ⟨rfl, _⟩
                · obtain ⟨state, found⟩ := Option.isSome_iff_exists.mp present
                  obtain ⟨member, same⟩ := NetworkStore.state?_some found
                  exact List.mem_map.mpr ⟨state, member, same⟩
                · simp
        · exact kept.traced.store (List.Subset.refl _)
            (List.map_subset _ statesKept) fun id found => .inl found
        · intro state member
          rcases isNew state member with before | ⟨rfl, absent⟩
          · exact (kept.counted state before).same rfl rfl rfl
          · refine (if_neg ?_).mpr rfl
            intro owned
            exact absent (kept.traced.owner_state owned)
        · intro state member unblocked settled
          rcases isNew state member with before | ⟨rfl, absent⟩
          · exact (kept.staged state before unblocked settled).same
              (List.Subset.refl _) rfl rfl
          · have never : sys.host.lastApplied? approval.approvalUuid = none :=
              NetworkHost.lastApplied?_none fun ack isTraced same =>
                absent (same ▸ kept.traced.state ack isTraced)
            simp only [IsStaged, never]
        · rw [idle]
          trivial
  · exact kept

end System

namespace NetworkStore

theorem Registered.operation_active (registered : db.Registered)
    (isRules : db.rulesFor approvalUuid operation = .ok rules)
    (isActive : Documents.get? db.actives approvalUuid = some rules) :
    operation = .active := by
  have long := (registered.actives _ _ isActive).2
  have notShort : Documents.get? db.bootstraps approvalUuid ≠ some rules := by
    intro isBootstrap
    rw [(registered.bootstraps _ _ isBootstrap).2] at long
    cases long
  cases operation with
  | active => rfl
  | bootstrap => exact absurd (get_ok.mp isRules) notShort
  | rollback => exact absurd (get_ok.mp isRules) notShort

theorem verifiedStage_bootstrap (stage : verifiedStage operation = .bootstrap) :
    operation = .bootstrap ∨ operation = .rollback := by
  cases operation with
  | bootstrap => exact .inl rfl
  | rollback => exact .inr rfl
  | active => cases stage

end NetworkStore

namespace System

theorem Kept.ready (kept : sys.Kept) (member : state ∈ sys.store.states)
    (isOpen : sys.store.IsOpenFor state .active) :
    ∃ ack, ∃ job ∈ sys.store.jobs,
      sys.host.lastApplied? state.approval = some ack ∧
        job.id = ack.contextUuid ∧ job.status = .verified ∧
        (job.operation = .bootstrap ∨ job.operation = .rollback) := by
  have verified := NetworkStore.hasOpenJob_false isOpen.settled
  have staged := kept.staged state member isOpen.unblocked fun job isJob _ =>
      verified job isJob
  have stage : state.stage = .bootstrap := isOpen.stage
  unfold IsStaged at staged
  cases last : sys.host.lastApplied? state.approval with
  | none =>
      simp only [last, stage] at staged
      cases staged
  | some ack =>
      simp only [last, stage] at staged
      obtain ⟨operation, entry, sameStage⟩ := staged
      obtain ⟨job, isJob, sameId, _, rfl⟩ := NetworkStore.mem_started.mp entry
      exact ⟨ack, job, isJob, rfl, sameId, verified job isJob,
          NetworkStore.verifiedStage_bootstrap sameStage.symm⟩

/-- A fresh dispatch keeps the invariant. -/
theorem Kept.dispatch
    (kept : sys.Kept) {deadline : Timestamp} {guarded : Except Denied Unit}
    {store : NetworkStore} (dispatched :
      sys.store.dispatch approval operation request deadline guarded =
        .ok (store, .fresh rules expectedGeneration))
    (reading : StartReading) :
    Kept
      { sys with
        store := store
        frame := some (.install
              (Install.begin approval operation request deadline rules
                expectedGeneration reading)
              .dispatched) } := by
  obtain ⟨state, intents, events, _, isRules, unknown, found, generation,
    admitted, written, rfl⟩ := NetworkStore.dispatch_ok dispatched
  obtain ⟨isState, sameApproval⟩ := NetworkStore.state?_some found
  have absent := NetworkStore.job?_none unknown
  have startedKept : sys.store.started ⊆ (sys.store.jobs ++
            [NetworkStore.dispatchedJob approval operation request
              (sys.store.digest
                (.request approval operation rules deadline))]).map
          (fun job => (job.id, job.approval, job.operation)) :=
    List.map_subset _ (List.subset_append_left _ _)
  have idsKept : ∀ id ∈ sys.store.jobs.map Job.id, id ∈ (sys.store.jobs ++
            [NetworkStore.dispatchedJob approval operation request
              (sys.store.digest
                (.request approval operation rules deadline))]).map Job.id :=
    fun id member => List.map_subset _ (List.subset_append_left _ _) member
  refine ⟨?_, ?_, ?_, ?_, ?_, ?_⟩
  · constructor
    · exact Rows.nodup_append_new kept.keyed.jobs absent
    · exact kept.keyed.states
    · intro job member
      rcases List.mem_append.mp member with before | isNew
      · exact kept.keyed.receipt job before
      · rw [List.mem_singleton.mp isNew]
        simp [NetworkStore.dispatchedJob]
    · intro id present
      rcases Documents.get?_put?_ne_none written present with before | rfl
      · exact idsKept id (kept.keyed.intents id before)
      · simp [NetworkStore.dispatchedJob]
    · exact fun id present => idsKept id (kept.keyed.readbacks id present)
    · exact fun id present => idsKept id (kept.keyed.receipts id present)
  · exact ⟨kept.registered.bootstraps, kept.registered.actives,
        kept.registered.complete⟩
  · exact kept.traced.store startedKept (List.Subset.refl _)
      fun id present => .inl present
  · exact fun other member => (kept.counted other member).same rfl rfl rfl
  · intro other member unblocked settled
    have settledBefore : sys.store.IsSettled other.approval :=
      fun job isJob => settled job (List.mem_append_left _ isJob)
    exact (kept.staged other member unblocked settledBefore).same
      startedKept rfl rfl
  · refine ⟨?_, ?_, ⟨state, isState, sameApproval, generation⟩, ?_, ?_⟩
    · exact ⟨_, List.mem_append_right _ (List.mem_singleton_self _), rfl, rfl,
          rfl, rfl⟩
    · intro reached
      obtain ⟨job, isJob, same⟩ :=
        List.mem_map.mp (kept.traced.dispatched request reached)
      exact absent job isJob same
    · intro other otherFound blocked
      have same : state = other := Option.some.inj (found.symm.trans otherFound)
      rcases NetworkStore.admits_ok admitted with ⟨isRollback, _⟩ | ⟨_, isOpen⟩
      · exact isRollback
      · rw [← same, isOpen.unblocked] at blocked
        cases blocked
    · intro isActive
      have operationActive := kept.registered.operation_active isRules isActive
      subst operationActive
      rcases NetworkStore.admits_ok admitted with ⟨isRollback, _⟩ | ⟨_, isOpen⟩
      · cases isRollback
      · obtain ⟨ack, job, isJob, last, sameId, verified, earlier⟩ :=
          kept.ready isState isOpen
        rw [sameApproval] at last
        refine ⟨⟨ack, job, List.mem_append_left _ isJob, last, sameId, verified,
            earlier⟩, ?_⟩
        intro other member differs
        rcases List.mem_append.mp member with before | isNew
        · exact NetworkStore.hasOpenJob_false isOpen.settled other before
        · rw [List.mem_singleton.mp isNew] at differs
          exact absurd rfl differs

end System

/-! ## The host -/

theorem NetworkHost.apply_none {next : NetworkHost} (applied :
      host.apply digest approval request rules expectedGeneration binding
        now = (next, none)) :
    ∃ calls, next = { host with calls := calls } := by
  unfold NetworkHost.apply at applied
  split at applied
  · cases applied
    exact ⟨host.calls, rfl⟩
  · split at applied
    · cases applied
      exact ⟨_, rfl⟩
    · cases applied

/-- What an applied call has changed on the host. -/
theorem NetworkHost.apply_some {next : NetworkHost} (applied :
      host.apply digest approval request rules expectedGeneration binding
        now = (next, some ack)) :
    ∃ calls, host.ownedFor approval expectedGeneration ∧
        ack = host.ack digest approval request rules now ∧
        next =
          { host with
            rules := some rules
            owner := some approval.approvalUuid
            generation := host.generation + 1
            calls := calls
            trace := host.trace ++ [ack] } := by
  unfold NetworkHost.apply at applied
  split at applied
  · cases applied
  · rename_i owned
    split at applied
    · cases applied
    · cases applied
      exact ⟨_, Decidable.not_not.mp owned, rfl, rfl⟩

theorem Traced.owned_by (traced : Traced db host reached)
    (owned : host.ownedFor approval expectedGeneration) :
    (∀ ack ∈ host.trace, ack.ownerUuid = approval.approvalUuid) ∧
      ∀ other ≠ approval.approvalUuid, host.owner ≠ some other := by
  obtain ⟨generation, owner⟩ := owned
  split at owner
  · rename_i isFirst
    have empty : host.trace = [] := by
      rw [← List.length_eq_zero_iff, ← traced.generation, generation, isFirst]
    rw [empty, owner]
    exact ⟨by simp, by simp⟩
  · refine ⟨?_, ?_⟩
    · intro ack member
      have sameOwner := traced.owner ack member
      rw [owner, Option.some.injEq] at sameOwner
      exact sameOwner.symm
    · intro other differs isOwner
      rw [owner, Option.some.injEq] at isOwner
      exact differs isOwner.symm

namespace System

theorem Kept.apply_none (kept : sys.Kept)
    (dispatched : IsDispatched sys.store sys.host sys.reached call)
    {calls : List (Uuid × Digest)} :
    Kept
      { sys with
        host := { sys.host with calls := calls }
        frame := some (.install call .failing)
        reached := sys.reached ++ [call.request] } where
  keyed := kept.keyed
  registered := kept.registered
  traced :=
    { kept.traced with
      once := by
        refine List.nodup_append.mpr ⟨kept.traced.once, by simp, ?_⟩
        rintro id member _ isNew rfl
        rw [List.mem_singleton.mp isNew] at member
        exact dispatched.fresh member
      called := fun ack member =>
        List.mem_append_left _ (kept.traced.called ack member)
      dispatched := by
        intro id member
        rcases List.mem_append.mp member with before | isNew
        · exact kept.traced.dispatched id before
        · obtain ⟨job, isJob, sameId, _⟩ := dispatched.pending
          rw [List.mem_singleton.mp isNew, ← sameId]
          exact List.mem_map_of_mem isJob }
  counted := kept.counted
  staged := kept.staged
  framed := trivial

end System

theorem NetworkHost.lastApplied?_append
    (differs : ack.ownerUuid ≠ approvalUuid) :
    ((host.trace ++ [ack]).filter fun other =>
        other.ownerUuid = approvalUuid).getLast? =
      host.lastApplied? approvalUuid := by
  simp [NetworkHost.lastApplied?, List.filter_append, differs]

/-- The trace after the host applied the rules of a call. -/
theorem Traced.apply (traced : Traced db host reached)
    (dispatched : IsDispatched db host reached call)
    (owned : host.ownedFor call.approval call.expectedGeneration)
    (context : ack.contextUuid = call.request)
    (owner : ack.ownerUuid = call.approval.approvalUuid)
    (generation : ack.generation = host.generation + 1)
    {rules : Option (List Command)} {calls : List (Uuid × Digest)} :
    Traced db
      { rules := rules
        owner := some call.approval.approvalUuid
        generation := host.generation + 1
        calls := calls
        trace := host.trace ++ [ack] }
      (reached ++ [call.request]) := by
  obtain ⟨job, isJob, sameId, sameApproval, _⟩ := dispatched.pending
  obtain ⟨state, isState, sameState, _⟩ := dispatched.state
  have unreached : ∀ earlier ∈ host.trace,
      earlier.contextUuid ≠ call.request := by
    intro earlier member same
    exact dispatched.fresh (same ▸ traced.called earlier member)
  refine
    { generation := ?_, numbered := ?_, contexts := ?_, once := ?_,
      called := ?_, dispatched := ?_, job := ?_, owner := ?_, unowned := ?_,
      state := ?_, ownerships := ?_ }
  · simp [traced.generation]
  · refine traced.numbered.append ?_
    rw [generation, traced.numbered.largest, traced.generation]
  · refine Rows.nodup_append_new traced.contexts ?_
    rw [context]
    exact unreached
  · refine List.nodup_append.mpr ⟨traced.once, by simp, ?_⟩
    rintro id member _ isNew rfl
    rw [List.mem_singleton.mp isNew] at member
    exact dispatched.fresh member
  · intro other member
    rcases List.mem_append.mp member with before | isNew
    · exact List.mem_append_left _ (traced.called other before)
    · rw [List.mem_singleton.mp isNew, context]
      exact List.mem_append_right _ (List.mem_singleton_self _)
  · intro id member
    rcases List.mem_append.mp member with before | isNew
    · exact traced.dispatched id before
    · rw [List.mem_singleton.mp isNew, ← sameId]
      exact List.mem_map_of_mem isJob
  · intro other member
    rcases List.mem_append.mp member with before | isNew
    · exact traced.job other before
    · rw [List.mem_singleton.mp isNew, context, owner]
      exact ⟨job.operation,
          NetworkStore.mem_started.mpr ⟨job, isJob, sameId, sameApproval, rfl⟩⟩
  · intro other member
    rcases List.mem_append.mp member with before | isNew
    · rw [(traced.owned_by owned).1 other before]
    · rw [List.mem_singleton.mp isNew, owner]
  · intro empty
    simp at empty
  · intro other member
    rcases List.mem_append.mp member with before | isNew
    · exact traced.state other before
    · rw [List.mem_singleton.mp isNew, owner, ← sameState]
      exact List.mem_map_of_mem isState
  · intro id present
    have before := traced.ownerships id present
    simp only [List.map_append]
    exact List.mem_append_left _ before

theorem IsCounted.apply (keyed : db.Keyed) (traced : Traced db host reached)
    (dispatched : IsDispatched db host reached call)
    (owned : host.ownedFor call.approval call.expectedGeneration)
    (context : ack.contextUuid = call.request)
    (member : state ∈ db.states) (counted : IsCounted db host state)
    {rules : Option (List Command)} {calls : List (Uuid × Digest)} :
    IsCounted db
      { rules := rules
        owner := some call.approval.approvalUuid
        generation := host.generation + 1
        calls := calls
        trace := host.trace ++ [ack] }
      state := by
  by_cases isOwn : state.approval = call.approval.approvalUuid
  · obtain ⟨recorded, isState, sameState, generation⟩ := dispatched.state
    have same : recorded = state :=
      Rows.eq_of_key keyed.states isState member (sameState.trans isOwn.symm)
    refine (if_pos (by rw [isOwn])).mpr (.inr ⟨?_, ack, by simp, ?_⟩)
    · rw [← same, generation, ← owned.1]
    · by_contra present
      obtain ⟨earlier, isTraced, sameContext⟩ :=
        List.mem_map.mp (traced.ownerships _ present)
      rw [context] at sameContext
      exact dispatched.fresh (sameContext ▸ traced.called earlier isTraced)
  · have notOwner := (traced.owned_by owned).2 state.approval isOwn
    have never : state.generation = 0 := by
      rw [IsCounted, if_neg notOwner] at counted
      exact counted
    refine (if_neg ?_).mpr never
    intro same
    exact isOwn (Option.some.inj same).symm

namespace NetworkStore

theorem quarantinedJob_cases (job : Job) :
    job.receipt ≠ none ∧ quarantinedJob job = job ∨ job.receipt = none ∧
        quarantinedJob job =
          { job with
            status := .quarantined
            reason := .installOutcomeUnknown } := by
  unfold quarantinedJob
  split
  · rename_i without
    exact .inr ⟨without, rfl⟩
  · rename_i present
    exact .inl ⟨present, rfl⟩

theorem quarantinedJob_same (job : Job) :
    (quarantinedJob job).id = job.id ∧
      (quarantinedJob job).approval = job.approval ∧
        (quarantinedJob job).operation = job.operation := by
  rcases quarantinedJob_cases job with ⟨_, same⟩ | ⟨_, changed⟩
  · rw [same]
    exact ⟨rfl, rfl, rfl⟩
  · rw [changed]
    exact ⟨rfl, rfl, rfl⟩

end NetworkStore

theorem Traced.recovered
    (traced : Traced db host reached) {digest : ApplyAck → Digest}
    {ownerships : Documents.Table Uuid ApplyAck} (genuine : ack ∈ host.trace)
    (context : ack.contextUuid = failedJob) (written :
      Documents.put? digest db.ownerships failedJob ack = some ownerships)
    {generation : Nat}
    (recorded : generation = host.generation ∨
        (generation + 1 = host.generation ∧ Unrecorded db host))
    (atLeast : generation ≤ ack.generation) :
    ack.generation = host.generation ∨ (ack.generation + 1 = host.generation ∧
        ∃ last, host.trace.getLast? = some last ∧
            Documents.get? ownerships last.contextUuid = none) := by
  have atMost := traced.le_generation genuine
  rcases recorded with isLast | ⟨behind, last, isLast, unowned⟩
  · exact .inl (Nat.le_antisymm atMost (isLast ▸ atLeast))
  · rcases Nat.lt_or_ge ack.generation host.generation with less | notLess
    · refine .inr ⟨?_, last, isLast, ?_⟩
      · exact Nat.le_antisymm less (behind ▸ Nat.succ_le_succ atLeast)
      · by_contra present
        rcases Documents.get?_put?_ne_none written present with before | same
        · exact before unowned
        · have isTraced : last ∈ host.trace := List.mem_of_getLast? isLast
          have sameAck : last = ack :=
            Rows.eq_of_key traced.contexts isTraced genuine
              (same.trans context.symm)
          rw [← sameAck, traced.last_generation isLast] at less
          exact Nat.lt_irrefl _ less
    · exact .inl (Nat.le_antisymm atMost notLess)

namespace System

theorem unsettled_of_pending (pending : db.IsPending call) :
    ¬ db.IsSettled call.approval.approvalUuid := by
  intro settled
  obtain ⟨job, isJob, _, sameApproval, _, isDispatched⟩ := pending
  have isVerified := settled job isJob sameApproval
  rw [isDispatched] at isVerified
  cases isVerified

theorem Kept.apply_some (kept : sys.Kept)
    (dispatched : IsDispatched sys.store sys.host sys.reached call)
    (owned : sys.host.ownedFor call.approval call.expectedGeneration)
    (context : ack.contextUuid = call.request)
    (owner : ack.ownerUuid = call.approval.approvalUuid)
    (generation : ack.generation = sys.host.generation + 1)
    {rules : Option (List Command)} {calls : List (Uuid × Digest)} :
    Kept
      { sys with
        host :=
          { rules := rules
            owner := some call.approval.approvalUuid
            generation := sys.host.generation + 1
            calls := calls
            trace := sys.host.trace ++ [ack] }
        frame := some (.install call (.applied ack))
        reached := sys.reached ++ [call.request] } where
  keyed := kept.keyed
  registered := kept.registered
  traced := kept.traced.apply dispatched owned context owner generation
  counted := fun state member =>
    IsCounted.apply kept.keyed kept.traced dispatched owned context member
      (kept.counted state member)
  staged := by
    intro state member unblocked settled
    have differs : ack.ownerUuid ≠ state.approval := by
      intro same
      refine unsettled_of_pending dispatched.pending ?_
      rw [← owner, same]
      exact settled
    have before := kept.staged state member unblocked settled
    unfold IsStaged NetworkHost.lastApplied?
    rw [NetworkHost.lastApplied?_append differs]
    exact before
  framed := ⟨dispatched.pending, by simp, context, owner⟩

/-! ## The other transactions -/

theorem Kept.own
    (kept : sys.Kept) (applied : IsApplied sys.store sys.host call ack)
    {store : NetworkStore} (owned :
      sys.store.own call.approval.approvalUuid call.request ack = .ok store) :
    Kept
      { sys with
        store := store
        frame := some (.install call (.owned ack)) } := by
  obtain ⟨ownerships, events, written, rfl⟩ := NetworkStore.own_ok owned
  have isTraced : ack ∈ sys.host.trace := List.mem_of_getLast? applied.last
  have approvals : (Rows.modify NetworkState.approval call.approval.approvalUuid
            (fun state => { state with generation := ack.generation })
            sys.store.states).map NetworkState.approval =
        sys.store.states.map NetworkState.approval :=
    Rows.map_modify fun _ _ _ => rfl
  refine ⟨?_, ?_, ?_, ?_, ?_, ?_⟩
  · refine { kept.keyed with states := ?_ }
    rw [approvals]
    exact kept.keyed.states
  · refine { kept.registered with complete := ?_ }
    rw [approvals]
    exact kept.registered.complete
  · refine kept.traced.store (List.Subset.refl _) ?_ ?_
    · rw [approvals]
      exact List.Subset.refl _
    · intro id present
      rcases Documents.get?_put?_ne_none written present with before | rfl
      · exact .inl before
      · exact .inr (applied.context ▸ List.mem_map_of_mem isTraced)
  · have owner : sys.host.owner = some call.approval.approvalUuid := by
      rw [kept.traced.owner ack isTraced, applied.owner]
    intro state member
    obtain ⟨old, isState, ⟨same, rfl⟩ | ⟨differs, rfl⟩⟩ :=
      Rows.mem_modify.mp member
    · refine (if_pos (by rw [owner, same])).mpr (.inl ?_)
      exact kept.traced.last_generation applied.last
    · have notOwner : sys.host.owner ≠ some state.approval := by
        rw [owner]
        exact fun same => differs (Option.some.inj same).symm
      have before := kept.counted state isState
      rw [IsCounted, if_neg notOwner] at before
      exact (if_neg notOwner).mpr before
  · intro state member unblocked settled
    obtain ⟨old, isState, ⟨same, rfl⟩ | ⟨_, rfl⟩⟩ := Rows.mem_modify.mp member
    · exact (kept.staged old isState unblocked settled).same
        (List.Subset.refl _) rfl rfl
    · exact (kept.staged state isState unblocked settled).same
        (List.Subset.refl _) rfl rfl
  · exact ⟨applied.pending, applied.last, applied.context, applied.owner⟩

/-- Finishing an applied operation keeps the invariant. -/
theorem Kept.finish
    (kept : sys.Kept) (applied : IsApplied sys.store sys.host call ack)
    {readback : Readback} {receipt : InstallReceipt} {store : NetworkStore}
    (finished :
      sys.store.finish call.approval.approvalUuid call.request call.operation
        readback receipt = .ok store) :
    Kept
      { sys with
        store := store
        frame := some (.install call .finished) } := by
  obtain ⟨readbacks, receipts, events, readbackPut, receiptPut, _, rfl⟩ :=
    NetworkStore.finish_ok finished
  obtain ⟨job, isJob, sameId, sameApproval, sameOperation, _⟩ := applied.pending
  have known : call.request ∈ sys.store.jobs.map Job.id :=
    sameId ▸ List.mem_map_of_mem isJob
  have startedKept :
      (Rows.modify Job.id call.request (NetworkStore.verifiedJob receipt)
            sys.store.jobs).map
          (fun job => (job.id, job.approval, job.operation)) =
        sys.store.started :=
    NetworkStore.started_modify fun _ => ⟨rfl, rfl, rfl⟩
  have approvals : (Rows.modify NetworkState.approval call.approval.approvalUuid
            (fun state =>
              { state with stage := NetworkStore.verifiedStage call.operation })
            sys.store.states).map NetworkState.approval =
        sys.store.states.map NetworkState.approval :=
    Rows.map_modify fun _ _ _ => rfl
  refine ⟨?_, ?_, ?_, ?_, ?_, trivial⟩
  · refine kept.keyed.modify rfl rfl (fun _ => rfl) (fun _ => rfl) ?_ rfl ?_ ?_
    · intro other _ _
      simp [NetworkStore.verifiedJob]
    · intro id present
      rcases Documents.get?_put?_ne_none readbackPut present with before | rfl
      · exact kept.keyed.readbacks id before
      · exact known
    · intro id present
      rcases Documents.get?_put?_ne_none receiptPut present with before | rfl
      · exact kept.keyed.receipts id before
      · exact known
  · refine { kept.registered with complete := ?_ }
    rw [approvals]
    exact kept.registered.complete
  · refine kept.traced.store ?_ ?_ fun id present => .inl present
    · exact startedKept ▸ List.Subset.refl _
    · rw [approvals]
      exact List.Subset.refl _
  · intro state member
    obtain ⟨old, isState, ⟨_, rfl⟩ | ⟨_, rfl⟩⟩ := Rows.mem_modify.mp member
    · exact (kept.counted old isState).same rfl rfl rfl
    · exact (kept.counted state isState).same rfl rfl rfl
  · intro state member unblocked settled
    obtain ⟨old, isState, ⟨same, rfl⟩ | ⟨differs, rfl⟩⟩ :=
      Rows.mem_modify.mp member
    · have last := NetworkHost.lastApplied?_of_last applied.last
      rw [applied.owner, ← same] at last
      simp only [IsStaged, last]
      have entry : (ack.contextUuid, old.approval, call.operation) ∈
            sys.store.started :=
        NetworkStore.mem_started.mpr
          ⟨job, isJob, sameId.trans applied.context.symm,
            sameApproval.trans same.symm, sameOperation⟩
      rw [← startedKept] at entry
      exact ⟨call.operation, entry, rfl⟩
    · have settledBefore : sys.store.IsSettled state.approval := by
        intro other isOther isOwn
        refine settled other (Rows.mem_modify.mpr ⟨other, isOther, .inr ?_⟩)
          isOwn
        refine ⟨fun isRequest => ?_, rfl⟩
        have sameJob : other = job :=
          Rows.eq_of_key kept.keyed.jobs isOther isJob
            (isRequest.trans sameId.symm)
        rw [sameJob, sameApproval] at isOwn
        exact differs isOwn.symm
      exact (kept.staged state isState unblocked settledBefore).same
        (startedKept ▸ List.Subset.refl _) rfl rfl

/-- A quarantine keeps the invariant. -/
theorem Kept.quarantine (kept : sys.Kept) {store : NetworkStore}
    (quarantined : sys.store.quarantine approvalUuid request = .ok store)
    (framed : IsFramed store sys.host sys.reached frame) :
    Kept { sys with store := store, frame := frame } := by
  obtain ⟨events, rfl⟩ := NetworkStore.quarantine_ok quarantined
  have startedKept : (Rows.modify Job.id request NetworkStore.quarantinedJob
            sys.store.jobs).map
          (fun job => (job.id, job.approval, job.operation)) =
        sys.store.started :=
    NetworkStore.started_modify NetworkStore.quarantinedJob_same
  have approvals : (Rows.modify NetworkState.approval approvalUuid
            NetworkStore.blockedState sys.store.states).map
          NetworkState.approval =
        sys.store.states.map NetworkState.approval :=
    Rows.map_modify fun _ _ _ => rfl
  refine ⟨?_, ?_, ?_, ?_, ?_, framed⟩
  · refine kept.keyed.modify rfl rfl
      (fun job => (NetworkStore.quarantinedJob_same job).1) (fun _ => rfl) ?_
      rfl kept.keyed.readbacks kept.keyed.receipts
    intro job isJob _
    rcases NetworkStore.quarantinedJob_cases job
      with ⟨_, same⟩ | ⟨without, changed⟩
    · rw [same]
      exact kept.keyed.receipt job isJob
    · rw [changed]
      simp [without]
  · refine { kept.registered with complete := ?_ }
    rw [approvals]
    exact kept.registered.complete
  · refine kept.traced.store ?_ ?_ fun id present => .inl present
    · exact startedKept ▸ List.Subset.refl _
    · rw [approvals]
      exact List.Subset.refl _
  · intro state member
    obtain ⟨old, isState, ⟨_, rfl⟩ | ⟨_, rfl⟩⟩ := Rows.mem_modify.mp member
    · exact (kept.counted old isState).same rfl rfl rfl
    · exact (kept.counted state isState).same rfl rfl rfl
  · intro state member unblocked settled
    obtain ⟨old, isState, ⟨_, rfl⟩ | ⟨_, rfl⟩⟩ := Rows.mem_modify.mp member
    · cases unblocked
    · have settledBefore : sys.store.IsSettled state.approval := by
        intro job isJob isOwn
        by_cases isRequest : job.id = request
        · have after := settled (NetworkStore.quarantinedJob job)
              (Rows.mem_modify.mpr ⟨job, isJob, .inl ⟨isRequest, rfl⟩⟩)
              ((NetworkStore.quarantinedJob_same job).2.1.trans isOwn)
          rcases NetworkStore.quarantinedJob_cases job
            with ⟨_, same⟩ | ⟨_, changed⟩
          · rwa [same] at after
          · rw [changed] at after
            cases after
        · exact settled job
            (Rows.mem_modify.mpr ⟨job, isJob, .inr ⟨isRequest, rfl⟩⟩) isOwn
      exact (kept.staged state isState unblocked settledBefore).same
        (startedKept ▸ List.Subset.refl _) rfl rfl

/-- A recovery from a genuine acknowledgement keeps the invariant. -/
theorem Kept.recover (kept : sys.Kept) {store : NetworkStore}
    (recovered : sys.store.recover approval failedJob ack now = .ok store)
    (genuine : ack ∈ sys.host.trace) (permitted :
      ∀ state, sys.store.state? approval.approvalUuid = some state →
        state.generation ≤ ack.generation)
    (framed : IsFramed store sys.host sys.reached frame) :
    Kept { sys with store := store, frame := frame } := by
  obtain ⟨job, ownerships, events, found, unverified, context, owner, written,
    rfl⟩ := NetworkStore.recover_ok recovered
  obtain ⟨isJob, sameId⟩ := NetworkStore.job?_some found
  have startedKept : (Rows.modify Job.id failedJob NetworkStore.recoveredJob
            sys.store.jobs).map
          (fun job => (job.id, job.approval, job.operation)) =
        sys.store.started :=
    NetworkStore.started_modify fun _ => ⟨rfl, rfl, rfl⟩
  have approvals : (Rows.modify NetworkState.approval approval.approvalUuid
            (NetworkStore.recoveredState ack.generation)
            sys.store.states).map NetworkState.approval =
        sys.store.states.map NetworkState.approval :=
    Rows.map_modify fun _ _ _ => rfl
  refine ⟨?_, ?_, ?_, ?_, ?_, framed⟩
  · refine kept.keyed.modify rfl rfl (fun _ => rfl) (fun _ => rfl) ?_ rfl
      kept.keyed.readbacks kept.keyed.receipts
    intro other isOther isFailed
    have same : other = job :=
      Rows.eq_of_key kept.keyed.jobs isOther isJob (isFailed.trans sameId.symm)
    have without : job.receipt = none := by
      by_contra present
      exact unverified ((kept.keyed.receipt job isJob).mp present)
    simp [NetworkStore.recoveredJob, same, without]
  · refine { kept.registered with complete := ?_ }
    rw [approvals]
    exact kept.registered.complete
  · refine kept.traced.store ?_ ?_ ?_
    · exact startedKept ▸ List.Subset.refl _
    · rw [approvals]
      exact List.Subset.refl _
    · intro id present
      rcases Documents.get?_put?_ne_none written present with before | rfl
      · exact .inl before
      · exact .inr (context ▸ List.mem_map_of_mem genuine)
  · have isOwner : sys.host.owner = some approval.approvalUuid := by
      rw [kept.traced.owner ack genuine, owner]
    intro state member
    obtain ⟨old, isState, ⟨same, rfl⟩ | ⟨differs, rfl⟩⟩ :=
      Rows.mem_modify.mp member
    · have recorded := kept.counted old isState
      rw [IsCounted, if_pos (isOwner.trans (same ▸ rfl))] at recorded
      have atLeast := permitted old (same ▸ kept.keyed.state? isState)
      refine (if_pos (by rw [isOwner]; exact same ▸ rfl)).mpr ?_
      exact kept.traced.recovered genuine context written recorded atLeast
    · have notOwner : sys.host.owner ≠ some state.approval := by
        rw [isOwner]
        exact fun same => differs (Option.some.inj same).symm
      have before := kept.counted state isState
      rw [IsCounted, if_neg notOwner] at before
      exact (if_neg notOwner).mpr before
  · intro state member unblocked settled
    obtain ⟨old, isState, ⟨_, rfl⟩ | ⟨_, rfl⟩⟩ := Rows.mem_modify.mp member
    · cases unblocked
    · have settledBefore : sys.store.IsSettled state.approval := by
        intro other isOther isOwn
        by_cases isFailed : other.id = failedJob
        · have after := settled (NetworkStore.recoveredJob other)
              (Rows.mem_modify.mpr ⟨other, isOther, .inl ⟨isFailed, rfl⟩⟩)
              isOwn
          cases after
        · exact settled other
            (Rows.mem_modify.mpr ⟨other, isOther, .inr ⟨isFailed, rfl⟩⟩)
            isOwn
      exact (kept.staged state isState unblocked settledBefore).same
        (startedKept ▸ List.Subset.refl _) rfl rfl

end System

end TicketSandbox.Firewall
