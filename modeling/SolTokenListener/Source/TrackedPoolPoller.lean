import SolTokenListener.Lib.EventRun

/-!
# Sweeps of a tracked pool

Source: src/application/tracked-pool-poller.ts:14-16, 168-318, src/storage/tracked-pool.repository.ts:41-85.
One pool is modelled, with any number of sweeps at once, as an abandoned sweep goes on in the background. A
sweep is what it awaits; an event settles that await, and the sweep runs on to its next one. The address
history is a list, newest first, that grows at its head, and the RPC answers from what it holds at that
moment. A call can take effect some time before it settles, and also when it then fails. Notification fields other
than the signature, the counters of the report and the cycle around the sweeps are left out.
-/

namespace SolTokenListener.Source.TrackedPoolPoller

variable {σ : Type} [DecidableEq σ]

def PAGE_SIZE : Nat := 1000
def MAX_PAGES : Nat := 5

inductive TrackedPoolOutcome where
  | SUCCEEDED | AWAITING_BOUNDARY | GAP_SKIPPED | FAILED
deriving DecidableEq

inductive ConfirmationStatus where
  | processed | confirmed | finalized
deriving DecidableEq

structure CatchUpSignature (σ : Type) where
  signature : σ
  slot : Nat
  confirmationStatus : ConfirmationStatus
  transactionFailed : Bool
deriving DecidableEq

structure PoolCheckpoint (σ : Type) where
  slot : Nat
  signature : σ
deriving DecidableEq

/-- A store that began: from which checkpoint, with which rows, whether the probe had confirmed the boundary, the
deadline and the inbox at that moment, and whether it took effect. -/
structure Stored (σ : Type) where
  checkpoint : PoolCheckpoint σ
  rows : List (CatchUpSignature σ)
  newest : CatchUpSignature σ
  confirmed : Bool
  expired : Bool
  inbox : List σ
  applied : Bool

inductive Await (σ : Type) where
  | readCheckpoint
  | seedCheckpoint (checkpoint : PoolCheckpoint σ)
  | page (checkpoint : PoolCheckpoint σ) (rows : List (CatchUpSignature σ)) (pageCount : Nat)
  | probe (checkpoint : PoolCheckpoint σ) (rows : List (CatchUpSignature σ)) (reachedEnd : Bool)
  | enqueue (checkpoint : PoolCheckpoint σ) (rows : List (CatchUpSignature σ)) (confirmed : Bool)
      (entry : CatchUpSignature σ) (rest : List (CatchUpSignature σ))
  | store (stored : Stored σ)
  /-- The promise of `pollPool` is settled: with an outcome, or with an error. -/
  | settled (result : Option TrackedPoolOutcome) (stored : Option (Stored σ))

structure Sweep (σ : Type) where
  awaiting : Await σ
  expired : Bool

/-! ## The RPC -/

def getSignaturesForAddress (history : List (CatchUpSignature σ)) (before «until» : Option σ) (limit : Nat) :
    List (CatchUpSignature σ) :=
  let older := before.elim history fun signature => (history.dropWhile (·.signature ≠ signature)).tail
  let newer := «until».elim older fun signature => older.takeWhile (·.signature ≠ signature)
  newer.take limit

/-! ## A sweep between two awaits -/

/-- The checks of one page; `seen` holds the checkpoint and the rows. -/
def appendPage (checkpoint : PoolCheckpoint σ) :
    List (CatchUpSignature σ) → List (CatchUpSignature σ) → Option (List (CatchUpSignature σ))
  | rows, [] => some rows
  | rows, entry :: page =>
    if (rows.getLast?.any fun previous => decide (previous.slot < entry.slot)) ∨ entry.slot < checkpoint.slot ∨
        entry.signature = checkpoint.signature ∨ entry.signature ∈ rows.map (·.signature) ∨
        entry.confirmationStatus ≠ .finalized then none
    else appendPage checkpoint (rows ++ [entry]) page

def nextPage (expired : Bool) (checkpoint : PoolCheckpoint σ) (rows : List (CatchUpSignature σ)) (pageCount : Nat)
    (reachedEnd : Bool) : Await σ :=
  if expired then .settled none none
  else if reachedEnd = false ∧ pageCount < MAX_PAGES then .page checkpoint rows pageCount
  else .probe checkpoint rows reachedEnd

def outcomeOf (confirmed : Bool) : TrackedPoolOutcome := if confirmed then .SUCCEEDED else .GAP_SKIPPED

/-- The rows from `rest` on, and then the store. -/
def enqueueRows (expired : Bool) (inbox : List σ) (checkpoint : PoolCheckpoint σ)
    (rows : List (CatchUpSignature σ)) (confirmed : Bool) : List (CatchUpSignature σ) → Await σ
  | [] =>
    match rows.head? with
    | none => .settled (some (outcomeOf confirmed)) none
    | some newest =>
      if expired then .settled (some (outcomeOf confirmed)) none
      else .store { checkpoint, rows, newest, confirmed, expired, inbox, applied := false }
  | entry :: rest =>
    if expired then .settled none none
    else if entry.transactionFailed then enqueueRows expired inbox checkpoint rows confirmed rest
    else .enqueue checkpoint rows confirmed entry rest

def isBoundary (checkpoint : PoolCheckpoint σ) (entry : CatchUpSignature σ) : Bool :=
  entry.signature = checkpoint.signature ∧ entry.slot = checkpoint.slot

/-! ## The poller -/

structure Poller (σ : Type) where
  activation : PoolCheckpoint σ
  history : List (CatchUpSignature σ)
  checkpoint : Option (PoolCheckpoint σ)
  inbox : List σ
  sweeps : List (Sweep σ)

inductive Reply where
  | resolved | rejected
deriving DecidableEq

namespace Poller

/-- `WHERE slot <= $2`. -/
def storeMatches (poller : Poller σ) (stored : Stored σ) : Bool :=
  poller.checkpoint.any (·.slot ≤ stored.newest.slot)

/-- The call that a sweep awaits takes effect. -/
def perform (poller : Poller σ) : Await σ → Poller σ × Await σ
  | .seedCheckpoint checkpoint =>
    ({ poller with checkpoint := poller.checkpoint.or (some checkpoint) }, .seedCheckpoint checkpoint)
  | .enqueue checkpoint rows confirmed entry rest =>
    ({ poller with inbox := entry.signature :: poller.inbox }, .enqueue checkpoint rows confirmed entry rest)
  | .store stored =>
    if stored.applied ∨ poller.storeMatches stored = false then (poller, .store stored)
    else ({ poller with checkpoint := some ⟨stored.newest.slot, stored.newest.signature⟩ },
      .store { stored with applied := true })
  | awaiting => (poller, awaiting)

/-- The sweep goes on after an await whose call took effect, as far as it could. -/
def resume (poller : Poller σ) (expired : Bool) : Await σ → Await σ
  | .readCheckpoint =>
    match poller.checkpoint with
    | some checkpoint => nextPage expired checkpoint [] 0 false
    | none => .seedCheckpoint poller.activation
  | .seedCheckpoint checkpoint => nextPage expired checkpoint [] 0 false
  | .page checkpoint rows pageCount =>
    let page := getSignaturesForAddress poller.history (rows.getLast?.map (·.signature))
      (some checkpoint.signature) PAGE_SIZE
    match appendPage checkpoint rows page with
    | none => .settled none none
    | some rows => nextPage expired checkpoint rows (pageCount + 1) (page.length < PAGE_SIZE)
  | .probe checkpoint rows reachedEnd =>
    let probe := getSignaturesForAddress poller.history (rows.getLast?.map (·.signature)) none 1
    let confirmed := probe.head?.any (isBoundary checkpoint)
    if confirmed = false ∧ reachedEnd then .settled (some .AWAITING_BOUNDARY) none
    else enqueueRows expired poller.inbox checkpoint rows confirmed rows
  | .enqueue checkpoint rows confirmed _ rest => enqueueRows expired poller.inbox checkpoint rows confirmed rest
  | .store stored =>
    -- An update that matched no row is an error.
    .settled (if stored.applied then some (outcomeOf stored.confirmed) else none) (some stored)
  | .settled result stored => .settled result stored

/-- The sweep ends with the error of its await. -/
def reject : Await σ → Await σ
  | .store stored => .settled none (some stored)
  | .settled result stored => .settled result stored
  | _ => .settled none none

def setSweep (poller : Poller σ) (index : Nat) (sweep : Sweep σ) : Poller σ :=
  { poller with sweeps := poller.sweeps.set index sweep }

end Poller

inductive PollEvent (σ : Type) where
  | grow (entries : List (CatchUpSignature σ))
  | start
  | perform (index : Nat)
  | settle (index : Nat) (reply : Reply)
  | timeout (index : Nat)

def Await.isSettled : Await σ → Bool
  | .settled _ _ => true
  | _ => false

/-- New entries have new signatures. A deadline expires while the promise of its sweep is pending. -/
def step (poller : Poller σ) : PollEvent σ → Poller σ
  | .grow entries =>
    if ((entries ++ poller.history).map (·.signature)).Nodup then
      { poller with history := entries ++ poller.history }
    else poller
  | .start => { poller with sweeps := poller.sweeps ++ [⟨.readCheckpoint, false⟩] }
  | .perform index =>
    match poller.sweeps[index]? with
    | none => poller
    | some sweep =>
      let performed := poller.perform sweep.awaiting
      performed.1.setSweep index { sweep with awaiting := performed.2 }
  | .settle index .resolved =>
    match poller.sweeps[index]? with
    | none => poller
    | some sweep =>
      let performed := poller.perform sweep.awaiting
      performed.1.setSweep index { sweep with awaiting := performed.1.resume sweep.expired performed.2 }
  | .settle index .rejected =>
    match poller.sweeps[index]? with
    | none => poller
    | some sweep => poller.setSweep index { sweep with awaiting := Poller.reject sweep.awaiting }
  | .timeout index =>
    match poller.sweeps[index]? with
    | none => poller
    | some sweep => if sweep.awaiting.isSettled then poller else poller.setSweep index { sweep with expired := true }

/-- What `pollWithTimeout` records for the sweep. -/
def Sweep.report (sweep : Sweep σ) : Option TrackedPoolOutcome :=
  if sweep.expired then some .FAILED
  else
    match sweep.awaiting with
    | .settled result _ => some (result.getD .FAILED)
    | _ => none

def Sweep.stored (sweep : Sweep σ) : Option (Stored σ) :=
  match sweep.awaiting with
  | .store stored => some stored
  | .settled _ stored => stored
  | _ => none

def initial (activation : PoolCheckpoint σ) (checkpoint : Option (PoolCheckpoint σ)) : Poller σ :=
  ⟨activation, [], checkpoint, [], []⟩

end SolTokenListener.Source.TrackedPoolPoller
