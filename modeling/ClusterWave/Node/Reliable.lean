import ClusterWave.Node.Outbox

/-!
# Reliable delivery

A message that has to reach a peer is sent again and again, at a fixed period, until it is
acknowledged or given up. For each peer and each kind of message at most one is pending; a newer one
takes the place of an older one.
-/

namespace ClusterWave

/-- A message that awaits its acknowledgment. -/
structure Pending where
  message : Message
  /-- How often it was sent. -/
  attempts : Nat
  /-- The timer of its next transmission. -/
  timer : TimerHandle
deriving DecidableEq

structure ReliableSender where
  retryInterval : Duration
  pending : Table (NodeId × MessageKind) Pending
deriving DecidableEq

namespace ReliableSender

/-- Nothing is pending. -/
def idle (retryInterval : Duration) : ReliableSender := ⟨retryInterval, Table.empty⟩

/-- Cancel the timer of a pending message, if there is one. -/
def silence (o : Outbox) : Option Pending → Outbox
  | none => o
  | some p => o.cancel p.timer

/-- Send a message to a peer after a delay, in place of a pending one of its kind. -/
def arm (s : ReliableSender) (o : Outbox) (peer : NodeId) (message : Message) (delay : Duration) :
    ReliableSender × Outbox :=
  let key := (peer, message.kind)
  let entry : Pending := { message, attempts := 0, timer := o.handle }
  let armed := o.schedule delay (.retransmit peer message.kind)
  ({ s with pending := s.pending.insert key entry }, silence armed (s.pending.get? key))

/-- Send the pending message of a kind to a peer and set the timer for the next time. The number is
how often it was sent by now, if there is one. -/
def transmit (s : ReliableSender) (o : Outbox) (peer : NodeId) (kind : MessageKind) :
    ReliableSender × Outbox × Option Nat :=
  match s.pending.get? (peer, kind) with
  | none => (s, o, none)
  | some p =>
    let sent := o.send peer (Packet.single p.message)
    let entry := { p with attempts := p.attempts + 1, timer := sent.handle }
    ({ s with pending := s.pending.insert (peer, kind) entry },
      sent.schedule s.retryInterval (.retransmit peer kind), some (p.attempts + 1))

/-- Take an acknowledgment in; tells whether it matches a pending message. -/
def acknowledge (s : ReliableSender) (o : Outbox) (peer : NodeId) (kind : MessageKind) :
    ReliableSender × Outbox × Bool :=
  match s.pending.get? (peer, kind) with
  | none => (s, o, false)
  | some p => ({ s with pending := s.pending.erase (peer, kind) }, o.cancel p.timer, true)

/-- Give up the pending messages that pass a test; tells how many there were. -/
def giveUp (s : ReliableSender) (o : Outbox) (test : NodeId × MessageKind → Bool) :
    ReliableSender × Outbox × Nat :=
  let dropped := s.pending.filter fun key _ => test key
  ({ s with pending := s.pending.filter fun key _ => !test key },
    dropped.values.foldl (fun o p => o.cancel p.timer) o, dropped.size)

/-- Give up every pending message of a kind. -/
def cancelKind (s : ReliableSender) (o : Outbox) (kind : MessageKind) :
    ReliableSender × Outbox × Nat :=
  s.giveUp o fun key => key.2 == kind

/-- Take every pending message as acknowledged. -/
def satisfyAll (s : ReliableSender) (o : Outbox) : ReliableSender × Outbox × Nat :=
  s.giveUp o fun _ => true

def isPending (s : ReliableSender) (peer : NodeId) (kind : MessageKind) : Bool :=
  s.pending.contains (peer, kind)

/-- How often the pending message of a kind was sent to a peer. -/
def attempts? (s : ReliableSender) (peer : NodeId) (kind : MessageKind) : Option Nat :=
  (s.pending.get? (peer, kind)).map Pending.attempts

end ReliableSender

end ClusterWave
