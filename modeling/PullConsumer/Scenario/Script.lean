import PullConsumer.Client.Waiting

/-! # Scripted collaborators

A script lists the outcomes of the next calls of a collaborator and one outcome for all calls after
them.
-/

namespace PullConsumer.Scenario

/-- What a scripted collaborator does with a call. -/
inductive Outcome
  | accept
  /-- A broker's response; without a group of its own the group of the request answers. -/
  | respond (code : ResponseCode) (messages : List Message) (group : Option String)
  | fail (fault : Fault)
  | hang
  | panic (text : String)
  | delay (milliseconds : Nat) (next : Outcome)

/-- The outcomes of a collaborator's calls. -/
structure Script where
  next : List Outcome
  always : Outcome

/-- Takes the outcome of the next call. -/
def Script.take (script : Script) : Outcome × Script :=
  match script.next with
  | [] => (script.always, script)
  | outcome :: rest => (outcome, { script with next := rest })

/-- The scripts of all collaborators. -/
structure Scripts where
  ack : Script
  sendBack : Script
  pull : Script
  refresh : Script
  release : Script

namespace Scripts

/-- All calls are accepted, and no response to a pull is prepared. -/
def standard : Scripts where
  ack := ⟨[], .accept⟩
  sendBack := ⟨[], .accept⟩
  pull := ⟨[], .fail (.transport "no response queued")⟩
  refresh := ⟨[], .accept⟩
  release := ⟨[], .accept⟩

def get (scripts : Scripts) : Collaborator → Script
  | .ack => scripts.ack
  | .sendBack => scripts.sendBack
  | .pull => scripts.pull
  | .refresh => scripts.refresh
  | .release => scripts.release

def set (scripts : Scripts) (collaborator : Collaborator) (script : Script) : Scripts :=
  match collaborator with
  | .ack => { scripts with ack := script }
  | .sendBack => { scripts with sendBack := script }
  | .pull => { scripts with pull := script }
  | .refresh => { scripts with refresh := script }
  | .release => { scripts with release := script }

end Scripts

end PullConsumer.Scenario
