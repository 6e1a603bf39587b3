import TableExchange.Http.Message
import TableExchange.Service.Exchange

/-!
What carries requests to a service. A network answers whole requests, and takes uploads whose body
is pushed piece by piece while the answer is awaited.
-/

namespace TableExchange.Http

abbrev Answered (σ : Type) := Except Obstacle Response × σ

/-- A network with states `σ`; an upload in progress is a value of `υ`. -/
structure Network (σ υ : Type) where
  /-- Sends a request and waits for the answer, at most for a span in milliseconds. -/
  roundTrip : Nat → Request → σ → Answered σ
  /-- Starts a request whose body will follow. -/
  startUpload : Request → σ → υ × σ
  /-- Hands over bytes of a body; refused once the answer is there or the upload broke. -/
  push : υ → List UInt8 → σ → Bool × σ
  /-- Ends the body and waits for the answer. -/
  collect : υ → σ → Answered σ
  /-- Gives the request up. -/
  cancel : υ → σ → σ

/-- Uploads on a network without connection: how many pieces each one has taken, in the order of
their start, and how many of them have broken by now. -/
structure Outage where
  taken : List Nat := []
  broken : Nat := 0
deriving DecidableEq, Repr

namespace Outage

/-- The number of pieces that an upload holds until it must be connected. -/
def buffer : Nat := 17

/-- Lets every upload notice that there is no connection. -/
def notice (o : Outage) : Outage :=
  { o with broken := o.taken.length }

/-- Hands a piece to an upload, which takes it unless it has broken or its buffer is full. -/
def offer (upload : Nat) (o : Outage) : Bool × Outage :=
  if upload < o.broken ∨ buffer ≤ o.taken.getD upload 0 then (false, o)
  else (true, { o with taken := o.taken.modify upload (· + 1) })

/-- A network on which no service can be reached. An upload takes pieces until it notices. -/
def network : Network Outage Nat where
  roundTrip _ _ o := (.error .unreachable, o)
  startUpload _ o := (o.taken.length, { o with taken := o.taken ++ [0] })
  push u _ o := o.offer u
  collect _ o := (.error .unreachable, o)
  cancel _ o := o

end Outage

end TableExchange.Http
