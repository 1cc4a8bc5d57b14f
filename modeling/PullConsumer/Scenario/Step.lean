import PullConsumer.Scenario.Executor

/-! # The steps of a scenario

A scenario is a list of steps on one client. Queues, entries, tasks and messages have names of the
scenario's own choice.
-/

namespace PullConsumer.Scenario

/-- What an ack hook does with the continuation that completes the message. -/
inductive HookPolicy
  /-- Keeps it until the kept continuations are run. -/
  | defer
  /-- Never runs it. -/
  | drop
  /-- Reports the message as failed first, and then runs it. -/
  | nackFirst
  /-- Runs it at once. -/
  | pass
deriving DecidableEq

/-- All policies; the place of a policy is its number as a hook. -/
def HookPolicy.all : List HookPolicy := [.defer, .drop, .nackFirst, .pass]

def HookPolicy.hook (policy : HookPolicy) : HookId :=
  HookPolicy.all.findIdx (· == policy)

def HookPolicy.ofHook? (hook : HookId) : Option HookPolicy :=
  HookPolicy.all[hook]?

/-- The filter of a batch that is handed in directly. -/
inductive BatchFilter
  | acceptAll
  /-- The rules that follow from the request. -/
  | rules
  | rejectIds (ids : List String)

/-- The parts of a pull request that a step settles; the rest comes from the entry. -/
structure RequestParts where
  subject : Option String
  group : Option String
  consumer : Option String
  mostOnce : Bool
  brokerGroup : Option String
  window : Option AckWindow
  size : Nat
  timeout : Nat

/-- A change of a broker group. -/
inductive GroupAction
  | available
  | unavailable
  | remove

/-- A procedure that may wait, by the names of the scenario. -/
inductive Call
  | flush (queue : String) (timeout : Nat)
  | close (queue : String) (timeout : Nat)
  | pull (entry : String) (size timeout : Nat) (hook : Option HookPolicy)
  | handBack (entry : String) (kind : HandBack)

/-- One step of a scenario. -/
inductive Step
  | script (collaborator : Collaborator) (outcomes : Option (List Outcome))
      (always : Option Outcome)
  | metrics (works : Bool)
  | config (settings : Settings)
  | newQueue (queue : String) (assignment : Assignment) (start : Bool)
  | start (queue : String)
  | register (queue : String) (message : Message)
  | resolve (id : String) (verdict : Verdict)
  | entryState (id : String)
  | feed (queue : String) (messages : List Message) (filter : BatchFilter)
      (hook : Option HookPolicy) (consume : ConsumeParam)
  | ack (ids : List String)
  | nack (ids : List String)
  | releaseHooks
  | show (id key : String)
  | debug (id : String)
  | call (call : Call)
  | advance (milliseconds : Nat)
  | newEntry (entry : String) (assignment : Assignment) (mostOnce : Bool)
  | buildRequest (entry : String) (parts : RequestParts)
  | handle (entry : String) (parts : RequestParts) (code : ResponseCode)
      (messages : List Message) (group : Option String) (hook : Option HookPolicy)
  | markFailed (entry group : String)
  | group (group : String) (action : GroupAction)
  | dropQueue (queue : String)
  | dropEntry (entry : String)
  | spawn (task : String) (call : Call)
  | join (task : String)
  | running (task : String)
  | abort (task : String)

/-- What can be read off a delivered message. -/
structure DeliveryView where
  message : Message
  offset : Int
  state : AckState
  property : Option String
  flag : Bool

/-- What a step returns. -/
inductive Result
  | nothing
  | ok
  | done
  | cancelled
  | stuck
  | flag (value : Bool)
  | fault (fault : Fault)
  | panic (text : String)
  | outcome (outcome : DrainOutcome)
  | registered (offset : Int) (state : AckState)
  | entry (effective : Option Bool) (state : AckState)
  | delivered (deliveries : List Delivery)
  | states (states : List AckState)
  | names (names : List String)
  | message (view : DeliveryView)
  | text (text : String)
  | assignment (assignment : Assignment) (placeholder : Bool)
  | request (request : PullRequest) (group : GroupHealth)
  | group (group : GroupHealth)

/-- What can be read off a queue. -/
structure QueueView where
  window : AckWindow
  outstanding : Nat
  destroyed : Bool

/-- What can be read off an entry. -/
structure EntryView where
  window : AckWindow
  destroyed : Bool

/-- The account of one step. -/
structure Item where
  result : Result
  effects : List Effect
  clock : Nat
  queues : Dictionary QueueView
  entries : Dictionary EntryView
  groups : Dictionary GroupHealth

end PullConsumer.Scenario
