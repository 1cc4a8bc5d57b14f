import PullConsumer.Broker.Registry
import PullConsumer.Message
import PullConsumer.ResponseCode

/-! # Pull responses -/

namespace PullConsumer

/-- The answer of a broker group to one pull request; a response without a batch has no messages. -/
structure PullResponse where
  code : ResponseCode
  brokerGroup : GroupRef
  messages : List Message
deriving DecidableEq

end PullConsumer
