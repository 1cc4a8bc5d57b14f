/-! # Response codes

The outcome that a broker writes into a pull response. Codes without a meaning for the consumer
are kept as they came.
-/

namespace PullConsumer

/-- The outcome of a pull as the broker reports it. -/
inductive ResponseCode
  | success
  | brokerReject
  | acquireLockFailed
  | other (code : Int16)
deriving DecidableEq

namespace ResponseCode

/-- The number of a code on the wire. -/
def code : ResponseCode → Int16
  | .success => 0
  | .brokerReject => 4
  | .acquireLockFailed => 12
  | .other code => code

/-- Reads a number from the wire; a number without a meaning is kept. -/
def ofCode (code : Int16) : ResponseCode :=
  if code = 0 then .success
  else if code = 4 then .brokerReject
  else if code = 12 then .acquireLockFailed
  else .other code

/-- The written form of a code. -/
def label : ResponseCode → String
  | .success => "SUCCESS"
  | .brokerReject => "BROKER_REJECT"
  | .acquireLockFailed => "ACQUIRE_LOCK_FAILED"
  | .other code => s!"CODE_{code.toInt}"

/-- Reading keeps the number. -/
@[simp] theorem code_ofCode (number : Int16) : (ofCode number).code = number := by
  unfold ofCode
  split
  · rename_i same
    exact same.symm
  · split
    · rename_i same
      exact same.symm
    · split
      · rename_i same
        exact same.symm
      · rfl

end ResponseCode

/-- The kinds of client that ask for broker metadata. -/
inductive ClientKind
  | producer
  | consumer
deriving DecidableEq

end PullConsumer
