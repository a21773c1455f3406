import SolTokenListener.Lib.CyclicOrder

/-!
# Rotation of the primary provider's accounts

`src/solana/rpc/helius-account-rotation.ts`: the shared rotation (lines 56–57, 131–185), the requests
that go through it (97–112) and the classification of an answer (188–203). A request is cut at its
`await`s: the events of `Event` are the synchronous segments of `#send`, the readers of the current
account, and the passing of time. Only requests to the primary origin and path are kept, the other
ones being handed to the base fetch unchanged. The clock is read once more between setting an account
aside and looking for the next one, so a classification can take time. The log, the chosen accounts
and the selections are kept, newest first, as what an observer sees.
-/

namespace SolTokenListener.Source.HeliusAccountRotation

open Lib.CyclicOrder

structure HeliusAccount where
  name : String
  apiKey : String
deriving DecidableEq

/-- The options the constructor accepts; the URLs only choose which requests are primary ones. -/
structure HeliusAccountRotationOptions where
  accounts : List HeliusAccount
  cooldownMs : Int
  accounts_ne_nil : accounts ≠ []
  cooldownMs_pos : 1 ≤ cooldownMs

inductive HeliusAccountSetAsideReason
  | quotaExhausted
  | keyRefused
deriving DecidableEq

inductive SelectionCause
  | startup
  | switch
deriving DecidableEq

/-- Events name an account, never its key. -/
inductive HeliusAccountEvent
  | selected (account : Option String) (cause : SelectionCause)
  | setAside (account : Option String) (reason : HeliusAccountSetAsideReason) (status : Nat)
      (untilMs : Int) (next : Option String) (available : Nat)
  | unavailable (accounts : Nat) (retryAtMs : Int)
deriving DecidableEq

/-- What a call of `#select` returned, at which reading of the clock and with which windows. -/
structure Selection where
  index : Nat
  now : Int
  setAsideUntil : List Int

structure Rotation where
  index : Nat
  setAsideUntil : List Int
  unavailableUntil : Int
  log : List HeliusAccountEvent
  selections : List Selection

/-- The end of an account's window, 0 for one that was never set aside. -/
def untilOf (setAsideUntil : List Int) (index : Nat) : Int :=
  setAsideUntil[index]?.getD 0

variable (options : HeliusAccountRotationOptions)

/-- The name an event gives an account; the index of the rotation always names one. -/
def accountName (index : Nat) : Option String :=
  options.accounts[index]?.map (·.name)

def Rotation.initial : Rotation where
  index := 0
  setAsideUntil := options.accounts.map fun _ => 0
  unavailableUntil := 0
  log := [.selected (accountName options 0) .startup]
  selections := []

/-- The first account after `start`, in cyclic order, that is outside its window. -/
def nextAvailable (setAsideUntil : List Int) (start : Nat) (now : Int) : Option Nat :=
  (placesFrom options.accounts.length start 1).find? fun index =>
    decide (untilOf setAsideUntil index ≤ now)

/-- The rotation after the current account was moved, if it is set aside and another is available. -/
def moved (rotation : Rotation) (now : Int) : Rotation :=
  if untilOf rotation.setAsideUntil rotation.index ≤ now then rotation
  else
    match nextAvailable options rotation.setAsideUntil rotation.index now with
    | none => rotation
    | some next =>
      { rotation with
        index := next
        log := .selected (accountName options next) .switch :: rotation.log }

/-- `#select`: the current account, moved to the next available one when it is set aside. -/
def select (rotation : Rotation) (now : Int) : Nat × Rotation :=
  let rotation := moved options rotation now
  (rotation.index, { rotation with
    selections := ⟨rotation.index, now, rotation.setAsideUntil⟩ :: rotation.selections })

/-- `Math.min` of the windows' ends. -/
def earliest : List Int → Int
  | [] => 0
  | [untilMs] => untilMs
  | untilMs :: others => if untilMs ≤ earliest others then untilMs else earliest others

/-- `#setAside`: idempotent within a window. -/
def setAside (rotation : Rotation) (index : Nat) (reason : HeliusAccountSetAsideReason)
    (status : Nat) (now : Int) : Rotation :=
  if untilOf rotation.setAsideUntil index > now then rotation
  else
    let untilMs := now + options.cooldownMs
    let setAsideUntil := rotation.setAsideUntil.set index untilMs
    let available := (setAsideUntil.filter fun untilMs => decide (untilMs ≤ now)).length
    let next := (nextAvailable options setAsideUntil index now).bind (accountName options)
    let log := .setAside (accountName options index) reason status untilMs next available ::
      rotation.log
    if available = 0 ∧ rotation.unavailableUntil ≤ now then
      { rotation with
        setAsideUntil := setAsideUntil
        unavailableUntil := earliest setAsideUntil
        log := .unavailable options.accounts.length (earliest setAsideUntil) :: log }
    else { rotation with setAsideUntil := setAsideUntil, log := log }

/-- An answer: its status, and the text of its body unless reading it fails. -/
structure Response where
  status : Nat
  text : Option String
deriving DecidableEq

/-- One character of the pattern, compared as the flags `iu` compare characters. -/
def sameLetter (expected actual : Char) : Bool :=
  actual.toLower == expected || (expected == 's' && actual == 'ſ')

def startsWithPhrase : List Char → List Char → Bool
  | [], _ => true
  | _ :: _, [] => false
  | expected :: phrase, actual :: text => sameLetter expected actual && startsWithPhrase phrase text

def holdsPhrase (phrase : List Char) : List Char → Bool
  | [] => startsWithPhrase phrase []
  | first :: text => startsWithPhrase phrase (first :: text) || holdsPhrase phrase text

/-- `/max usage reached/iu` -/
def quotaExhausted (text : String) : Bool :=
  holdsPhrase "max usage reached".toList text.toList

def setAsideReason (response : Response) : Option HeliusAccountSetAsideReason :=
  if response.status = 401 ∨ response.status = 403 then some .keyRefused
  else if response.status ≠ 429 then none
  else
    match response.text with
    | some text => if quotaExhausted text then some .quotaExhausted else none
    | none => none

inductive RequestBody
  | absent
  | text
  | stream
deriving DecidableEq

/-- A request is replayed only when its body can be sent again. -/
def replayable : RequestBody → Bool
  | .absent | .text => true
  | .stream => false

/-- Where `#send` waits: for the answer, for its classification, for the cancellation of its body. -/
inductive Phase
  | contacting (index : Nat)
  | classifying (index : Nat) (response : Response)
  | cancelling
  | returned (response : Response)
  | rejected
deriving DecidableEq

structure Request where
  body : RequestBody
  tried : List Nat
  phase : Phase
  contacts : List Nat

def Request.contacted (request : Request) (index : Nat) : Request :=
  { request with
    tried := request.tried.insert index
    phase := .contacting index
    contacts := index :: request.contacts }

/-- The requests in the order they were sent. -/
structure System where
  clock : Int
  rotation : Rotation
  requests : List Request

inductive Event
  | send (body : RequestBody)
  | answer (id : Nat) (response : Response)
  | fail (id : Nat)
  | classify (id : Nat) (elapsed : Nat)
  | cancelled (id : Nat)
  | currentAccount
  | tick (elapsed : Nat)

def System.initial (clock : Int) : System where
  clock := clock
  rotation := .initial options
  requests := []

def System.put (system : System) (id : Nat) (request : Request) : System :=
  { system with requests := system.requests.set id request }

/-- The top of the loop: select an account and send the request with its key. -/
def contact (system : System) (request : Request) (place : Request → List Request) : System :=
  let (index, rotation) := select options system.rotation system.clock
  { system with rotation := rotation, requests := place (request.contacted index) }

/-- What follows the answer: return it, or set the account aside and look for an untried one. -/
def classify (system : System) (id : Nat) (request : Request) (index : Nat) (response : Response)
    (elapsed : Nat) : System :=
  match setAsideReason response with
  | none => system.put id { request with phase := .returned response }
  | some reason =>
    let rotation := setAside options system.rotation index reason response.status system.clock
    if replayable request.body = false then
      { system with rotation := rotation }.put id { request with phase := .returned response }
    else
      let clock := system.clock + elapsed
      let (found, rotation) := select options rotation clock
      let phase := if found ∈ request.tried then .returned response else .cancelling
      { system with clock := clock, rotation := rotation }.put id { request with phase := phase }

/-- One event; one that the request's phase does not allow changes nothing. -/
def step (system : System) : Event → System
  | .send body =>
    contact options system ⟨body, [], .cancelling, []⟩ fun sent => system.requests ++ [sent]
  | .answer id response =>
    match system.requests[id]? with
    | some ⟨body, tried, .contacting index, contacts⟩ =>
      system.put id ⟨body, tried, .classifying index response, contacts⟩
    | _ => system
  | .fail id =>
    match system.requests[id]? with
    | some ⟨body, tried, .contacting _, contacts⟩ => system.put id ⟨body, tried, .rejected, contacts⟩
    | _ => system
  | .classify id elapsed =>
    match system.requests[id]? with
    | some ⟨body, tried, .classifying index response, contacts⟩ =>
      classify options system id ⟨body, tried, .classifying index response, contacts⟩ index response
        elapsed
    | _ => system
  | .cancelled id =>
    match system.requests[id]? with
    | some ⟨body, tried, .cancelling, contacts⟩ =>
      contact options system ⟨body, tried, .cancelling, contacts⟩ (system.requests.set id)
    | _ => system
  | .currentAccount =>
    { system with rotation := (select options system.rotation system.clock).2 }
  | .tick elapsed => { system with clock := system.clock + elapsed }

end SolTokenListener.Source.HeliusAccountRotation
