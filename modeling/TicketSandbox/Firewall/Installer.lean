import TicketSandbox.Firewall.NetworkStore
import TicketSandbox.Library.Runs

namespace TicketSandbox.Firewall

/-!
# The rules installer

`TrustedRulesInstaller` with `MockNetworkHost` and `IndependentReadback`: one
operator's calls on one store and one host, one transaction or one call on the
host after the other.  Between two of them a call may raise or its process may
crash.  What clocks and the host show is an input of each action.
-/

open TicketSandbox.Runtime (Digest RuntimeApproval Uuid)
open TicketSandbox.Sandbox (Timestamp)

/-! ## Guards -/

/-- `HostSnapshot`. -/
structure HostSnapshot where
  binding : NetworkBinding
  bridgeNames : List String
  physicalPorts : List String
  runnerInterfaces : List Nat
  targetInterfaces : List Nat
  netlinkSequenceStart : Nat
  netlinkSequenceEnd : Nat
  netlinkLost : Nat
  foreignBridgeHooks : Bool
  brNetfilter : Bool
  bridgeConntrack : Bool

/-- `HostSnapshot.__post_init__`. -/
def HostSnapshot.postInit (snapshot : HostSnapshot) : Except Denied Unit := do
  require (snapshot.bridgeNames = ["tcsh0"] ∧ snapshot.physicalPorts =
        [snapshot.binding.target.interface, snapshot.binding.runner.interface] ∧
      snapshot.runnerInterfaces = [snapshot.binding.runner.peerIfindex] ∧
      snapshot.targetInterfaces = [snapshot.binding.target.peerIfindex])
    "unapproved_topology"
  require (snapshot.netlinkSequenceStart ≤ snapshot.netlinkSequenceEnd)
    "netlink_evidence_invalid"
  require (snapshot.brNetfilter = false ∧ snapshot.bridgeConntrack = true)
    "kernel_network_profile_unproven"

/-- The fields of a binding that identify the host. -/
def NetworkBinding.SameHost (binding other : NetworkBinding) : Prop :=
  binding.hostBootUuid = other.hostBootUuid ∧
    binding.hostIdentityDigest = other.hostIdentityDigest ∧
    binding.hostNetnsInode = other.hostNetnsInode ∧
    binding.daemon = other.daemon ∧
    binding.networkId = other.networkId ∧
    binding.bridgeName = other.bridgeName ∧
    binding.bridgeIfindex = other.bridgeIfindex ∧
    binding.bridgeMac = other.bridgeMac
  deriving Decidable

/-- What `_guard` reads. -/
structure GuardReading where
  snapshot : HostSnapshot
  stopped : Bool
  now : Timestamp
  later : Timestamp

/-- `_guard`; the snapshot of the host is constructed in any case. -/
def guard (approval : NetworkApproval) (deadline : Timestamp) (recovery : Bool)
    (reading : GuardReading) : Except Denied Unit := do
  let snapshot := reading.snapshot
  snapshot.postInit
  require (if recovery then
      snapshot.binding.SameHost approval.binding
    else
      snapshot.binding = approval.binding)
    (if recovery then
      "rollback_host_identity_drift"
    else
      "install_host_identity_drift")
  require (snapshot.foreignBridgeHooks = false ∧ snapshot.netlinkLost = 0)
    "install_host_identity_drift"
  require (recovery = true ∨
      (reading.stopped = false ∧ approval.createdAt ≤ reading.now ∧
        reading.now < approval.expiresAt ∧ reading.later < deadline))
    "install_cancelled_or_expired"

/-! ## The host -/

/-- `MockNetworkHost`: what it enforces, and its own journal. -/
structure NetworkHost where
  rules : Option (List Command) := none
  owner : Option Uuid := none
  generation : Nat := 0
  calls : List (Uuid × Digest) := []
  trace : List ApplyAck := []

variable (host : NetworkHost) (approval : NetworkApproval)

/-- Who has to own the rules that a transaction replaces. -/
def NetworkHost.ownedFor (expectedGeneration : Nat) : Prop :=
  host.generation = expectedGeneration ∧
    if expectedGeneration = 0 then host.owner = none
    else host.owner = some approval.approvalUuid
  deriving Decidable

variable (digest : Digested → Digest)

/-- The acknowledgement of an applied transaction. -/
def NetworkHost.ack
    (approval : NetworkApproval) (request : Uuid) (rules : List Command)
    (now : Timestamp) : ApplyAck where
  contextUuid := request
  scope := approval.scope
  bindingDigest := digest (.binding approval.binding)
  ownerUuid := approval.approvalUuid
  rulesDigest := digest (.rules rules)
  generation := host.generation + 1
  observedAt := now
  tables := exactTables rules

/-- The host after an applied transaction. -/
def NetworkHost.applied (rules : List Command) (ack : ApplyAck) : NetworkHost :=
  { host with
    rules := some rules
    owner := some approval.approvalUuid
    generation := host.generation + 1
    trace := host.trace ++ [ack] }

/-- `apply`: the host afterwards, and the acknowledgement unless it raises. -/
def NetworkHost.apply (approval : NetworkApproval) (request : Uuid)
    (rules : List Command) (expectedGeneration : Nat) (binding : NetworkBinding)
    (now : Timestamp) : NetworkHost × Option ApplyAck :=
  if ¬ host.ownedFor approval expectedGeneration then
    (host, none)
  else
    let called :=
      { host with calls := host.calls ++ [(request, digest (.rules rules))] }
    if exactTables rules ≠ ownTables approval.approvalUuid ∨
        (expectedGeneration = 0 ∧ host.rules ≠ none) ∨
        ¬ binding.SameHost approval.binding ∨
        (digest (.rules rules) = approval.activeDigest ∧
          binding ≠ approval.binding) then
      (called, none)
    else
      let ack := host.ack digest approval request rules now
      (called.applied approval rules ack, some ack)

/-- `IndependentReadback.verify`. -/
def NetworkHost.verify (approval : NetworkApproval) (transaction : Uuid)
    (expectedRules : List Command) (expectedGeneration : Nat)
    (now : Timestamp) : Except Denied Readback := do
  let rules ← Raises.required ⟨"independent_rules_readback_mismatch"⟩ host.rules
  require (host.owner = some approval.approvalUuid ∧
      host.generation = expectedGeneration ∧
      digest (.rules rules) = digest (.rules expectedRules) ∧
      exactTables rules = exactTables expectedRules)
    "independent_rules_readback_mismatch"
  pure
    { contextUuid := transaction
      scope := approval.scope
      bindingDigest := digest (.binding approval.binding)
      ownerUuid := approval.approvalUuid
      generation := host.generation
      rulesDigest := digest (.rules rules)
      tables := exactTables rules
      observedAt := now }

/-! ## Calls -/

/-- A call of `install` behind its first transaction. -/
structure Install where
  approval : NetworkApproval
  operation : Operation
  request : Uuid
  deadline : Timestamp
  rules : List Command
  expectedGeneration : Nat
  started : Timestamp
  monotonicEnd : Timestamp

/-- How far a call of `install` has come, inside its `try`. -/
inductive Progress where
  | dispatched
  | applied (ack : ApplyAck)
  | owned (ack : ApplyAck)
  | confirmed (ack : ApplyAck) (readback : Readback)
  | finished
  | failing

/-- The call that is going on: an installation, or one about to roll back. -/
inductive Ongoing where
  | install (call : Install) (progress : Progress)
  | rollingBack (approval : NetworkApproval)

/-- What `install` checks of an acknowledgement. -/
def Install.acknowledges
    (call : Install) (digest : Digested → Digest) (ack : ApplyAck)
    (now : Timestamp) : Prop :=
  ack.contextUuid = call.request ∧ ack.ownerUuid = call.approval.approvalUuid ∧
    ack.bindingDigest = digest (.binding call.approval.binding) ∧
    ack.rulesDigest = digest (.rules call.rules) ∧
    ack.generation = call.expectedGeneration + 1 ∧
    ack.tables = exactTables call.rules ∧
    call.started ≤ ack.observedAt ∧ ack.observedAt ≤ now
  deriving Decidable

/-- What `install` reads between the two last transactions. -/
structure ConfirmReading where
  first : GuardReading
  now : Timestamp
  observedAt : Timestamp
  second : GuardReading
  monotonic : Timestamp

/-- The checks of `install` around the readback. -/
def Install.confirm
    (call : Install) (host : NetworkHost) (digest : Digested → Digest)
    (ack : ApplyAck) (reading : ConfirmReading) : Except Denied Readback := do
  let recovery := call.operation = .rollback
  guard call.approval call.deadline recovery reading.first
  require (reading.now - call.started ≤ applySeconds) "apply_budget_exceeded"
  let readback ←
    host.verify digest call.approval call.request call.rules ack.generation
      reading.observedAt
  guard call.approval call.deadline recovery reading.second
  require (reading.monotonic < call.monotonicEnd) "install_monotonic_deadline"
  pure readback

/-- The receipt of an installation. -/
def Install.receipt
    (call : Install) (digest : Digested → Digest) (ack : ApplyAck)
    (receiptUuid : Uuid) (now : Timestamp) : InstallReceipt where
  receiptUuid := receiptUuid
  contextUuid := call.request
  scope := call.approval.scope
  bindingDigest := digest (.binding call.approval.binding)
  operation := call.operation
  transactionUuid := call.request
  rulesDigest := digest (.rules call.rules)
  generation := ack.generation
  observedAt := now

/-- What a new call of `install` reads. -/
structure StartReading where
  guard : GuardReading
  started : Timestamp
  monotonic : Timestamp

/-- The call behind its first transaction. -/
def Install.begin (operation : Operation) (request : Uuid)
    (deadline : Timestamp) (rules : List Command) (expectedGeneration : Nat)
    (reading : StartReading) : Install where
  approval := approval
  operation := operation
  request := request
  deadline := deadline
  rules := rules
  expectedGeneration := expectedGeneration
  started := reading.started
  monotonicEnd :=
    reading.monotonic + min applySeconds (deadline - reading.started)

/-! ## The system -/

/-- The installed operator, the store, the host and the call going on. -/
structure System where
  operator : String
  store : NetworkStore
  host : NetworkHost
  frame : Option Ongoing
  reached : List Uuid

/-- Nothing has happened on a new store and a new host. -/
def System.fresh (operator : String) (digest : Digested → Digest) : System where
  operator := operator
  store := { digest := digest }
  host := {}
  frame := none
  reached := []

/-- What happens next. -/
inductive Action where
  | register (approval : NetworkApproval) (runtime : RuntimeApproval)
      (bootstrap active : List Command) (now : Timestamp)
  | install (approval : NetworkApproval) (operation : Operation)
      (request : Uuid) (deadline : Timestamp) (reading : StartReading)
  | apply (binding : NetworkBinding) (now : Timestamp)
  | own (now : Timestamp)
  | confirm (reading : ConfirmReading)
  | finish (receiptUuid : Uuid) (now : Timestamp)
  | answer
  | raise
  | quarantine
  | rollBack (request : Uuid) (now : Timestamp) (reading : StartReading)
  | recover (approval : NetworkApproval) (failedJob : Uuid) (ack : ApplyAck)
      (now : Timestamp)
  | check (approval : NetworkApproval) (active : Bool) (reading : GuardReading)
      (now : Timestamp)
  | crash

namespace System

/-- The checks of `register` in front of its transaction. -/
def admitsRegistration
    (sys : System) (approval : NetworkApproval) (runtime : RuntimeApproval)
    (bootstrap active : List Command) (now : Timestamp) : Prop :=
  let db := sys.store
  let binding := approval.binding
  runtime.schemaVersion = 2 ∧
    db.digest (.runtime runtime) = binding.runtimeApprovalDigest ∧
    runtime.daemon = binding.daemon ∧ runtime.scope = approval.scope ∧
    runtime.network.networkId = binding.networkId ∧
    runtime.network.targetIpv4 = binding.target.ipv4 ∧
    runtime.network.runnerIpv4 = binding.runner.ipv4 ∧
    approval.operator = sys.operator ∧
    approval.createdAt ≤ now ∧ now < approval.expiresAt ∧
    db.rulesHash bootstrap = approval.bootstrapDigest ∧
    db.rulesHash active = approval.activeDigest ∧
    exactTables bootstrap = exactTables active ∧
    approvedRules approval.approvalUuid runtime binding false = .ok bootstrap ∧
    approvedRules approval.approvalUuid runtime binding true = .ok active
  deriving Decidable

/-- `register`. -/
def register
    (sys : System) (approval : NetworkApproval) (runtime : RuntimeApproval)
    (bootstrap active : List Command) (now : Timestamp) : System :=
  if sys.admitsRegistration approval runtime bootstrap active now then
    match sys.store.register approval bootstrap active with
    | .ok store => { sys with store := store }
    | .error _ => sys
  else
    sys

/-- `install` up to the host; an exception there ends the call. -/
def install (sys : System) (approval : NetworkApproval) (operation : Operation)
    (request : Uuid) (deadline : Timestamp) (reading : StartReading) : System :=
  let guarded := guard approval deadline (operation = .rollback) reading.guard
  let ended := { sys with frame := none }
  match sys.store.dispatch approval operation request deadline guarded with
  | .ok (store, .fresh rules expectedGeneration) =>
      let call := Install.begin approval operation request deadline rules
          expectedGeneration reading
      { sys with store := store, frame := some (.install call .dispatched) }
  | .ok (store, .replay _ _) => { ended with store := store }
  | .error _ => ended

/-- The call of `install` on the host. -/
def apply (sys : System) (call : Install) (binding : NetworkBinding)
    (now : Timestamp) : System :=
  let (host, ack?) :=
    sys.host.apply sys.store.digest call.approval call.request call.rules
      call.expectedGeneration binding now
  let progress :=
    match ack? with
    | some ack => .applied ack
    | none => .failing
  { sys with
    host := host
    frame := some (.install call progress)
    reached := sys.reached ++ [call.request] }

/-- The second transaction of `install`. -/
def own (sys : System) (call : Install) (ack : ApplyAck)
    (now : Timestamp) : System :=
  let failing := { sys with frame := some (.install call .failing) }
  if call.acknowledges sys.store.digest ack now then
    match sys.store.own call.approval.approvalUuid call.request ack with
    | .ok store =>
        { sys with store := store, frame := some (.install call (.owned ack)) }
    | .error _ => failing
  else
    failing

/-- The readback of `install`. -/
def confirm (sys : System) (call : Install) (ack : ApplyAck)
    (reading : ConfirmReading) : System :=
  match call.confirm sys.host sys.store.digest ack reading with
  | .ok readback =>
      { sys with frame := some (.install call (.confirmed ack readback)) }
  | .error _ => { sys with frame := some (.install call .failing) }

/-- The last transaction of `install`. -/
def finish
    (sys : System) (call : Install) (ack : ApplyAck) (readback : Readback)
    (receiptUuid : Uuid) (now : Timestamp) : System :=
  let receipt := call.receipt sys.store.digest ack receiptUuid now
  match sys.store.finish call.approval.approvalUuid call.request call.operation
      readback receipt with
  | .ok store =>
      { sys with store := store, frame := some (.install call .finished) }
  | .error _ => { sys with frame := some (.install call .failing) }

/-- The handler of `install`, which rolls back what was no rollback. -/
def quarantine (sys : System) (call : Install) : System :=
  match sys.store.quarantine call.approval.approvalUuid call.request with
  | .ok store =>
      { sys with
        store := store
        frame :=
          if call.operation = .rollback then none
          else some (.rollingBack call.approval) }
  | .error _ => { sys with frame := none }

/-- `recover`; the trace is genuine when the host has it in its journal. -/
def recover (sys : System) (approval : NetworkApproval) (failedJob : Uuid)
    (ack : ApplyAck) (now : Timestamp) : System :=
  if ack ∈ sys.host.trace ∧ ack.scope = approval.scope then
    match sys.store.recover approval failedJob ack now with
    | .ok store =>
        { sys with store := store, frame := some (.rollingBack approval) }
    | .error _ => sys
  else
    sys

/-- One transaction, one call on the host, an exception or a crash. -/
def step? (sys : System) : Action → Option System
  | .register approval runtime bootstrap active now =>
      match sys.frame with
      | none => some (sys.register approval runtime bootstrap active now)
      | some _ => none
  | .install approval operation request deadline reading =>
      match sys.frame with
      | none => some (sys.install approval operation request deadline reading)
      | some _ => none
  | .apply binding now =>
      match sys.frame with
      | some (.install call .dispatched) => some (sys.apply call binding now)
      | _ => none
  | .own now =>
      match sys.frame with
      | some (.install call (.applied ack)) => some (sys.own call ack now)
      | _ => none
  | .confirm reading =>
      match sys.frame with
      | some (.install call (.owned ack)) => some (sys.confirm call ack reading)
      | _ => none
  | .finish receiptUuid now =>
      match sys.frame with
      | some (.install call (.confirmed ack readback)) =>
          some (sys.finish call ack readback receiptUuid now)
      | _ => none
  | .answer =>
      match sys.frame with
      | some (.install _ .finished) => some { sys with frame := none }
      | _ => none
  | .raise =>
      match sys.frame with
      | some (.install _ .failing) => some { sys with frame := none }
      | some (.install call _) =>
          some { sys with frame := some (.install call .failing) }
      | some (.rollingBack _) => some { sys with frame := none }
      | none => none
  | .quarantine =>
      match sys.frame with
      | some (.install call .failing) => some (sys.quarantine call)
      | _ => none
  | .rollBack request now reading =>
      match sys.frame with
      | some (.rollingBack approval) =>
          some (sys.install approval .rollback request (now + applySeconds)
              reading)
      | _ => none
  | .recover approval failedJob ack now =>
      match sys.frame with
      | none => some (sys.recover approval failedJob ack now)
      | some _ => none
  | .check _ _ _ _ =>
      match sys.frame with
      | none => some sys
      | some _ => none
  | .crash => some { sys with frame := none }

end System

end TicketSandbox.Firewall
