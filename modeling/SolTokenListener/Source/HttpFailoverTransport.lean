import SolTokenListener.Lib.CyclicOrder
import SolTokenListener.Lib.TextPattern

/-!
# HTTP failover between endpoints

`src/solana/rpc/http-failover-transport.ts`: the failover fetch (lines 82–177), the choice of an
endpoint (300–316), the reasons and cooldowns of a failure (334–374). The endpoint states and the
sticky index are shared by every request; a request is cut at the one `await` of its loop, so the
events are the start of a request, the settlement of an attempt together with the next turn of the
loop, an abort and the passing of time. An attempt may settle without a physical fetch (the budget
refuses it, or the signal is aborted before the fetch); it counts as an attempt all the same. The
clock can advance between the reading that degrades an endpoint and the one that selects the next.
The recorders and the selection callback are not modelled: they are isolated from the transport or
only observe it. Each attempt keeps what its selection saw.
-/

namespace SolTokenListener.Source.HttpFailoverTransport

open Lib.CyclicOrder Lib.TextPattern

inductive RpcHttpFailureReason
  | network
  | rateLimited
  | badGateway
  | unavailable
  | gatewayTimeout
deriving DecidableEq

abbrev RpcHttpEndpointId := String

inductive RpcHttpFailoverEvent
  | degraded (endpointId : RpcHttpEndpointId) (reason : RpcHttpFailureReason) (cooldownMs : Int)
  | failover (fromEndpointId toEndpointId : RpcHttpEndpointId) (reason : RpcHttpFailureReason)
  | exhausted (attemptedEndpointIds : List RpcHttpEndpointId)
deriving DecidableEq

structure EndpointState where
  id : RpcHttpEndpointId
  url : String
  cooldownUntil : Int
deriving DecidableEq

structure LastFailure where
  endpointId : RpcHttpEndpointId
  reason : RpcHttpFailureReason
deriving DecidableEq

/-- The endpoints `validateOptions` accepts; their identifiers follow from their positions. -/
structure RpcHttpFailoverFetchOptions where
  endpoints : List (RpcHttpEndpointId × String)
  two_le_length : 2 ≤ endpoints.length
  length_le_four : endpoints.length ≤ 4

/-- The calendar functions of the runtime; `none` is a date that is not finite. -/
structure Libraries where
  dateParse : String → Option Int
  toUTCString : Int → String

def DEFAULT_COOLDOWN_MS : Int := 1000

def MAX_RETRY_AFTER_MS : Int := 60000

/-! ## Reasons and cooldowns -/

def digits (count : Nat) : Pattern Char := .repeated Char.isDigit count (some count)

def oneOf : List String → Pattern Char
  | [] => .literal []
  | [text] => .literal text.toList
  | text :: texts => .alt (.literal text.toList) (oneOf texts)

def imfFixdate : Pattern Char :=
  .seq (oneOf ["Mon", "Tue", "Wed", "Thu", "Fri", "Sat", "Sun"]) (.seq (.literal ", ".toList)
    (.seq (digits 2) (.seq (.literal " ".toList)
      (.seq (oneOf ["Jan", "Feb", "Mar", "Apr", "May", "Jun", "Jul", "Aug", "Sep", "Oct", "Nov", "Dec"])
        (.seq (.literal " ".toList) (.seq (digits 4) (.seq (.literal " ".toList)
          (.seq (digits 2) (.seq (.literal ":".toList) (.seq (digits 2) (.seq (.literal ":".toList)
            (.seq (digits 2) (.literal " GMT".toList)))))))))))))

def canonicalDelaySeconds : Pattern Char :=
  .alt (.literal "0".toList)
    (.seq (.repeated (fun c => c.isDigit ∧ c ≠ '0') 1 (some 1)) (.repeated Char.isDigit 0 none))

def test (pattern : Pattern Char) (value : String) : Bool := (exec pattern value.toList).isSome

def transientReason : Nat → Option RpcHttpFailureReason
  | 429 => some .rateLimited
  | 502 => some .badGateway
  | 503 => some .unavailable
  | 504 => some .gatewayTimeout
  | _ => none

/-- `Math.min(cooldown, MAX_RETRY_AFTER_MS)` -/
def bounded (cooldown : Int) : Int :=
  if cooldown ≤ MAX_RETRY_AFTER_MS then cooldown else MAX_RETRY_AFTER_MS

/-- `Math.max(remaining, 0)` -/
def notNegative (remaining : Int) : Int :=
  if remaining ≤ 0 then 0 else remaining

/-- `Number(value)` of a text of digits. -/
def seconds (value : String) : Nat :=
  value.toList.foldl (fun total digit => total * 10 + (digit.toNat - '0'.toNat)) 0

def retryAfterCooldown (libraries : Libraries) (value : Option String) (currentTime : Int) : Int :=
  match value with
  | none => DEFAULT_COOLDOWN_MS
  | some value =>
    if test canonicalDelaySeconds value then bounded (seconds value * 1000)
    else if test imfFixdate value = false then DEFAULT_COOLDOWN_MS
    else
      match libraries.dateParse value with
      | none => DEFAULT_COOLDOWN_MS
      | some retryAt =>
        if libraries.toUTCString retryAt ≠ value then DEFAULT_COOLDOWN_MS
        else bounded (notNegative (retryAt - currentTime))

/-! ## The endpoints -/

def cooldownOf (states : List EndpointState) (index : Nat) : Int :=
  (states[index]?.map (·.cooldownUntil)).getD 0

def nextEligibleIndex (endpoints : List EndpointState) (startIndex : Nat)
    (attemptedIndices : List Nat) (currentTime : Int) : Option Nat :=
  (placesFrom endpoints.length startIndex 0).find? fun index =>
    decide (index ∉ attemptedIndices ∧ cooldownOf endpoints index ≤ currentTime)

/-- The later of the old deadline and the end of the new cooldown. -/
def degradedUntil (cooldownUntil degradedAt cooldownMs : Int) : Int :=
  if degradedAt + cooldownMs ≤ cooldownUntil then cooldownUntil else degradedAt + cooldownMs

/-- An attempt: the endpoint, the reading of the clock that selected it and the states it saw. -/
structure Attempt where
  index : Nat
  selectedAt : Int
  states : List EndpointState

/-- A cooldown that was set on an endpoint. -/
structure Cooldown where
  index : Nat
  degradedAt : Int
  cooldownMs : Int

inductive Phase
  | attempting (index : Nat)
  | returned (status : Nat)
  /-- The exhausted error, with the reading of the clock and the states that it was raised on. -/
  | exhausted (raisedAt : Int) (states : List EndpointState)
  | thrown

structure Request where
  startIndex : Nat
  aborted : Bool
  attemptedIndices : List Nat
  attemptedEndpointIds : List RpcHttpEndpointId
  lastFailure : Option LastFailure
  phase : Phase
  attempts : List Attempt

structure System where
  clock : Int
  states : List EndpointState
  stickyIndex : Nat
  requests : List Request
  events : List RpcHttpFailoverEvent
  cooldowns : List Cooldown

/-- An answer: its status and its `retry-after` header. -/
structure Response where
  status : Nat
  retryAfter : Option String

def Response.ok (response : Response) : Bool := 200 ≤ response.status ∧ response.status ≤ 299

/-- How an attempt settles: the fetch rejects, the budget refuses it, or there is an answer. -/
inductive Settlement
  | rejected
  | budgetError
  | unreadable
  | answered (response : Response)

inductive Event
  | fetch (aborted : Bool)
  | settle (id : Nat) (settlement : Settlement) (elapsed : Nat)
  | abort (id : Nat)
  | tick (elapsed : Nat)

variable (options : RpcHttpFailoverFetchOptions) (libraries : Libraries)

def System.initial (clock : Int) : System where
  clock := clock
  states := options.endpoints.map fun endpoint => ⟨endpoint.1, endpoint.2, 0⟩
  stickyIndex := 0
  requests := []
  events := []
  cooldowns := []

/-- `degrade`, at the clock of the system. -/
def degrade (system : System) (index : Nat) (endpoint : EndpointState)
    (reason : RpcHttpFailureReason) (cooldownMs : Int) : System :=
  let degradedAt := system.clock
  let cooldownUntil := degradedUntil endpoint.cooldownUntil degradedAt cooldownMs
  { system with
    states := system.states.set index { endpoint with cooldownUntil := cooldownUntil }
    events := if endpoint.cooldownUntil > degradedAt then system.events
      else .degraded endpoint.id reason cooldownMs :: system.events
    cooldowns := ⟨index, degradedAt, cooldownMs⟩ :: system.cooldowns }

/-- The event that a failed attempt is followed by another one. -/
def failoverEvents (request : Request) (endpoint : EndpointState) : List RpcHttpFailoverEvent :=
  match request.lastFailure with
  | none => []
  | some failure => [.failover failure.endpointId endpoint.id failure.reason]

/-- The top of the loop, up to the start of an attempt; `place` stores the request. -/
def turn (system : System) (request : Request) (place : Request → List Request) : System :=
  if request.aborted then { system with requests := place { request with phase := .thrown } }
  else
    match nextEligibleIndex system.states request.startIndex request.attemptedIndices
        system.clock with
    | none =>
      { system with
        requests := place { request with phase := .exhausted system.clock system.states }
        events := .exhausted request.attemptedEndpointIds :: system.events }
    | some index =>
      match system.states[index]? with
      | none => { system with requests := place { request with phase := .thrown } }
      | some endpoint =>
        { system with
          requests := place { request with
            attemptedIndices := request.attemptedIndices.insert index
            attemptedEndpointIds := request.attemptedEndpointIds ++ [endpoint.id]
            phase := .attempting index
            attempts := ⟨index, system.clock, system.states⟩ :: request.attempts }
          events := failoverEvents request endpoint ++ system.events }

/-- A transient failure: degrade the endpoint, remember the failure and take the next turn. -/
def failed (system : System) (id : Nat) (request : Request) (index : Nat)
    (reason : RpcHttpFailureReason) (cooldownMs : Int) (elapsed : Nat) : System :=
  match system.states[index]? with
  | none => system
  | some endpoint =>
    let degraded := degrade system index endpoint reason cooldownMs
    turn { degraded with clock := system.clock + elapsed }
      { request with lastFailure := some ⟨endpoint.id, reason⟩ } (system.requests.set id)

def System.put (system : System) (id : Nat) (request : Request) : System :=
  { system with requests := system.requests.set id request }

/-- What follows the `await` of an attempt. -/
def settle (system : System) (id : Nat) (request : Request) (index : Nat) (elapsed : Nat) :
    Settlement → System
  | .rejected =>
    if request.aborted then system.put id { request with phase := .thrown }
    else failed system id request index .network DEFAULT_COOLDOWN_MS elapsed
  | .budgetError => system.put id { request with phase := .thrown }
  | .unreadable => system.put id { request with phase := .thrown }
  | .answered response =>
    if request.aborted then system.put id { request with phase := .thrown }
    else
      match transientReason response.status with
      | none =>
        { system with stickyIndex := if response.ok then index else 0 }.put id
          { request with phase := .returned response.status }
      | some .rateLimited =>
        failed system id request index .rateLimited
          (retryAfterCooldown libraries response.retryAfter system.clock) elapsed
      | some reason => failed system id request index reason DEFAULT_COOLDOWN_MS elapsed

/-- One event; one that the request's phase does not allow changes nothing. -/
def step (system : System) : Event → System
  | .fetch aborted =>
    turn system ⟨system.stickyIndex, aborted, [], [], none, .thrown, []⟩
      fun sent => system.requests ++ [sent]
  | .settle id settlement elapsed =>
    match system.requests[id]? with
    | none => system
    | some request =>
      match request.phase with
      | .attempting index => settle libraries system id request index elapsed settlement
      | _ => system
  | .abort id =>
    match system.requests[id]? with
    | none => system
    | some request => system.put id { request with aborted := true }
  | .tick elapsed => { system with clock := system.clock + elapsed }

end SolTokenListener.Source.HttpFailoverTransport
