import StateMetrics.Admission.Scope
import StateMetrics.Reconcile.Attempt

/-!
# Reconciliation

`reconcileKey` makes one attempt at the stored version of an instance, `reconcileWithRetry` further
ones, each from a fresh read, while writes conflict, and `reconcile` is what the controller runs for
each version that it is told of. `errorPolicy` says what happens after an error.
-/

namespace StateMetrics

/-- What a controller is set to. -/
structure Settings where
  scope : Scope := {}
  /-- How many attempts are made while writes conflict; nought counts as one. -/
  maxAttempts : UInt32 := 3
  deriving DecidableEq, Repr, Inhabited

/-- One attempt at the stored version of an instance. A version that was reconciled and is to stay
is remembered; a missing instance needs nothing. -/
def reconcileKey (namespaceName name : String) : Program (Result Action) := do
  match ← Program.send (.getInstance namespaceName name) with
  | .error e => pure (.error e)
  | .ok none => do
    Program.inquire (.forget (Instance.keyOf name namespaceName))
    pure (.ok .awaitChange)
  | .ok (some stored) => do
    let result ← if stored.phase = .deleting then stored.cleanup else stored.apply
    if result.isOk && !stored.isDeleting then Program.inquire (.remember stored)
    else Program.inquire (.forget (Instance.keyOf name namespaceName))
    pure result

/-- Attempts from the one numbered `attempt` on, while writes conflict and attempts are left. -/
def retryFrom (maxAttempts attempt : UInt32) (namespaceName name : String) :
    Program (Result Action) := do
  match ← reconcileKey namespaceName name with
  | .ok action => pure (.ok action)
  | .error e =>
    if left : attempt < maxAttempts then
      if e.isConflict then retryFrom maxAttempts (attempt + 1) namespaceName name
      else pure (.error e)
    else pure (.error e)
termination_by maxAttempts.toNat - attempt.toNat
decreasing_by
  have bound : attempt.toNat < maxAttempts.toNat := UInt32.lt_iff_toNat_lt.mp left
  have limit := maxAttempts.toNat_lt
  have next : (attempt + 1).toNat = attempt.toNat + 1 := by
    rw [UInt32.toNat_add, UInt32.toNat_one]
    exact Nat.mod_eq_of_lt (by omega)
  omega

/-- Attempts at an instance, each from a fresh read, while writes conflict. -/
def reconcileWithRetry (settings : Settings) (namespaceName name : String) :
    Program (Result Action) :=
  retryFrom settings.maxAttempts 1 namespaceName name

/-- What the controller runs for a version of an instance that it is told of. -/
def reconcile (settings : Settings) (told : Instance) : Program (Result Action) := do
  if ← settings.scope.admitInstance told then
    Program.inquire (.count .runStarted)
    let result ← reconcileWithRetry settings told.metadata.namespaceName told.metadata.anyName
    if !result.isOk then Program.inquire (.forget told.key)
    Program.inquire (.count .runFinished)
    pure result
  else pure (.ok .awaitChange)

/-- How long to wait after a conflict, in seconds. -/
def conflictDelay : Nat := 5

/-- How long to wait after any other error that may pass, in seconds. -/
def errorDelay : Nat := 300

/-- What to do after an error: nothing before the instance changes if the error is permanent, else
another run after a while. -/
def Error.action (error : Error) : Action :=
  if error.isPermanent then .awaitChange
  else if error.isConflict then .requeue conflictDelay
  else .requeue errorDelay

/-- Counts an error and says what to do after it. -/
def errorPolicy (told : Instance) (error : Error) : Program Action := do
  Program.inquire (.count (.failed told.key error.label))
  pure error.action

end StateMetrics
