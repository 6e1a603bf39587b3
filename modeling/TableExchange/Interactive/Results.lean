import TableExchange.Interactive.Channel

/-!
The results of a submitted query. A pull reads the result channel until a payload with a status
comes; between two reads it checks the task and waits one poll interval. A payload whose status is
not running is the last one.
-/

namespace TableExchange

structure QueryResults where
  channel : TaskChannel
  pollMs : Nat
  receiver : Shutdown.Receiver
  terminated : Bool := false
deriving DecidableEq, Repr

namespace QueryResults

variable {σ : Type}

def interrupted (q : QueryResults) : Failure :=
  .of .interrupted "Interrupted while waiting for query results"
    (some s!"instance {q.channel.instanceId.id}")

/-- Takes note of a delivered payload's status. -/
def delivered (q : QueryResults) (status : ObjectStatus) : QueryResults :=
  { q with terminated := status != .running }

def await (svc : InstanceService σ) (q : QueryResults) (x : Exchange σ) :
    Option (Except Failure (Option TaskPayload)) × QueryResults × Exchange σ :=
  match q.channel.ensureAlive svc x with
  | (.error f, x) => (some (.error f), q, x)
  | (.ok (), x) =>
    match x.sleep q.receiver q.pollMs with
    | (true, r, x) => (some (.error q.interrupted), { q with receiver := r }, x)
    | (false, r, x) => (none, { q with receiver := r }, x)

/-- One round of a pull: a read, and a wait if the read brought nothing to deliver. -/
def step (svc : InstanceService σ) :
    QueryResults × Exchange σ →
      Option (Except Failure (Option TaskPayload)) × QueryResults × Exchange σ
  | (q, x) =>
    match q.channel.read svc TaskChannel.resultKey x with
    | (.error f, x) => (some (.error f), q, x)
    | (.ok none, x) => q.await svc x
    | (.ok (some payload), x) =>
      match payload.status with
      | some status => (some (.ok (some payload)), q.delivered status, x)
      | none => q.await svc x

/-- The next result, or nothing after the last one. The answer is absent when `rounds` reads do not
bring it. -/
def next (svc : InstanceService σ) (rounds : Nat) (q : QueryResults) (x : Exchange σ) :
    Option (Except Failure (Option TaskPayload)) × QueryResults × Exchange σ :=
  if q.terminated then (some (.ok none), q, x) else settle (step svc) rounds (q, x)

/-- Pulls until the end or the first failure, which is the last item. -/
def stream (svc : InstanceService σ) (rounds : Nat) :
    Nat → QueryResults → Exchange σ →
      List (Except Failure TaskPayload) × QueryResults × Exchange σ
  | 0, q, x => ([], q, x)
  | items + 1, q, x =>
    match q.next svc rounds x with
    | (some (.ok (some payload)), q, x) =>
      let (rest, q, x) := stream svc rounds items q x
      (.ok payload :: rest, q, x)
    | (some (.error f), q, x) => ([.error f], q, x)
    | (_, q, x) => ([], q, x)

@[simp] theorem next_of_terminated (svc : InstanceService σ) (rounds : Nat) {q : QueryResults}
    (x : Exchange σ) (h : q.terminated = true) :
    q.next svc rounds x = (some (.ok none), q, x) := by
  simp [next, h]

end QueryResults

end TableExchange
