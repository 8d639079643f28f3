import TicketSandbox.Library.Runs
import TicketSandbox.Shadow.Store

namespace TicketSandbox.Shadow

/-!
# Callers of the shadow store

The state machine of any number of callers on one store.  `dispatch_issue` and
`start` are two transactions each, with the backend called inside the second
one.  A crash rolls back the transaction it happens in, but not the call that
was already made.  The log only records what happened; no step reads it.
-/

open Sandbox (Timestamp)

/-- The two calls on the backend. -/
inductive CallKind where
  | issue
  | start
  deriving Repr, DecidableEq

/-- A call on the backend for a run. -/
structure Call where
  kind : CallKind
  runId : Uuid
  deriving Repr, DecidableEq

/-- A call on the store between its two transactions. -/
structure Held where
  kind : CallKind
  ticket : ExecutionTicket

/-- The call on the backend that is still to come. -/
def Held.call (held : Held) : Call where
  kind := held.kind
  runId := held.ticket.runUuid

/-- What happened. -/
inductive Event where
  | invoked (call : Call)
  | acknowledged (runId : Uuid)
  | confirmed (runId : Uuid)
  deriving Repr, DecidableEq

/-- The store, the calls between two transactions, and the log. -/
structure System where
  store : Store
  held : List Held
  log : List Event

namespace System

/-- Nothing has happened on a new store. -/
def fresh (digest : Digested → Digest) : System where
  store := { digest := digest }
  held := []
  log := []

end System

/--
How the backend takes a call: it answers as it should, it raises or answers
otherwise, or the caller crashes before its transaction commits.
-/
inductive Answer where
  | accepted
  | refused
  | lost

/-- A transaction of one of the callers, or a crash. -/
inductive Action where
  | setEnabled (enabled : Bool) (operatorId : String) (now : Timestamp)
  | reserve (request : OperatorRequest) (enrollment : VerifiedEnrollment)
      (operatorId : String) (now : Timestamp) (maxParallel : Nat)
      (newRun newExecution : Uuid)
  | claimIssue (runId : Uuid) (operatorId : String) (now : Timestamp)
  | intend (kind : CallKind) (ticket : ExecutionTicket) (now : Timestamp)
  | invoke (index : Nat) (now later last : Timestamp) (answer : Answer)
  | finish (ticket : ExecutionTicket) (result : ProbeResult) (now : Timestamp)
      (before after : Option RuntimeObservation)
  | confirmCleanup (ticket : ExecutionTicket) (now : Timestamp)
  | expire (runId : Uuid) (operatorId : String) (now : Timestamp)
  | crash (held : Option Nat)

namespace Store

/-- The first transaction of a call on the backend. -/
def intend (db : Store) (kind : CallKind) (ticket : ExecutionTicket)
    (now : Timestamp) : Except Failure (Store × Bool) :=
  match kind with
  | .issue => db.intendIssue ticket now
  | .start => db.intendStart ticket now

/-- The second transaction, up to the call on the backend. -/
def enter (db : Store) (kind : CallKind) (ticket : ExecutionTicket)
    (now : Timestamp) : Except Failure (Store × Option ShadowRun) :=
  match kind with
  | .issue => db.enterIssue ticket now
  | .start => db.enterStart ticket now

/-- The second transaction, after the call on the backend. -/
def leave (db : Store) (kind : CallKind) (row : ShadowRun) (accepted : Bool)
    (now later : Timestamp) : Except Failure (Store × Bool) :=
  match kind with
  | .issue => db.leaveIssue row accepted now later
  | .start => db.leaveStart row accepted now

end Store

/-- What an answered call leaves in the log, once its transaction commits. -/
def Call.answered (call : Call) (accepted : Bool) : List Event :=
  if call.kind = .issue ∧ accepted = true then [.acknowledged call.runId]
  else []

namespace System

variable (sys : System)

/-- A transaction that commits its store, or is rolled back. -/
def commit : Except Failure Store → System
  | .ok store => { sys with store := store }
  | .error _ => sys

/-- The first transaction of a call, which leaves the call behind. -/
def claim (held : Held) : Except Failure (Store × Bool) → System
  | .ok (store, true) => { sys with store := store, held := sys.held ++ [held] }
  | .ok (store, false) => { sys with store := store }
  | .error _ => sys

/-- The answer of the backend, inside the second transaction of a call. -/
def answer (entered : Store) (call : Call) (row : ShadowRun)
    (later last : Timestamp) (accepted : Bool) : System :=
  match entered.leave call.kind row accepted later last with
  | .ok (store, _) =>
      { sys with store := store, log := sys.log ++ call.answered accepted }
  | .error _ => sys

/-- The second transaction of a call. -/
def invoke (index : Nat) (held : Held) (now later last : Timestamp)
    (answer : Answer) : System :=
  let left := { sys with held := sys.held.eraseIdx index }
  match sys.store.enter held.kind held.ticket now with
  | .error _ => left
  | .ok (store, none) => { left with store := store }
  | .ok (store, some row) =>
      let called := { left with log := sys.log ++ [.invoked held.call] }
      match answer with
      | .lost => called
      | .accepted => called.answer store held.call row later last true
      | .refused => called.answer store held.call row later last false

/-- The transaction of `confirm_cleanup`. -/
def confirm (ticket : ExecutionTicket) : Except Failure Store → System
  | .ok store =>
      { sys with store := store, log := sys.log ++ [.confirmed ticket.runUuid] }
  | .error _ => sys

/-- One transaction; a call between two transactions is named by its place. -/
def step? : Action → Option System
  | .setEnabled enabled operatorId now =>
      some (sys.commit (sys.store.setEnabled enabled operatorId now))
  | .reserve request enrollment operatorId now maxParallel newRun
      newExecution =>
      some (sys.commit
          ((sys.store.reserve request enrollment operatorId now maxParallel
            newRun newExecution).map Prod.fst))
  | .claimIssue runId operatorId now =>
      some
        (sys.commit ((sys.store.claimIssue runId operatorId now).map Prod.fst))
  | .intend kind ticket now =>
      some (sys.claim { kind := kind, ticket := ticket }
          (sys.store.intend kind ticket now))
  | .invoke index now later last answer => do
      let held ← sys.held[index]?
      return sys.invoke index held now later last answer
  | .finish ticket result now before after =>
      some (sys.commit
          ((sys.store.finish ticket result now before after).map Prod.fst))
  | .confirmCleanup ticket now =>
      some (sys.confirm ticket (sys.store.confirmCleanup ticket now))
  | .expire runId operatorId now =>
      some (sys.commit (sys.store.expire runId operatorId now))
  | .crash none => some sys
  | .crash (some index) => some { sys with held := sys.held.eraseIdx index }

end System

end TicketSandbox.Shadow
