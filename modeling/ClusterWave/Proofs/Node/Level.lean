import ClusterWave.Proofs.Node.Asked
import ClusterWave.Proofs.Time
import ClusterWave.Proofs.Wire.Exact

/-!
# Levels

Some of what a node asks for is due at once: packets, which may take no time, and timers with an
empty delay. So that a node does not go round in circles at one point in time, every call has a
level, and what is due at once has a lower level than the call that asks for it. There are two
exceptions: a node may join a cluster, which ends its own election, or get an earlier start. Neither
can go on forever.
-/

namespace ClusterWave

/-! ### Settings -/

/-- Settings under which every timer that arms itself again waits. -/
structure Settings.Steady (s : Settings) : Prop where
  interval : s.interval.Lasts
  slot : s.slot.Lasts
  backoff : s.backoff.Lasts
  retryInterval : s.retryInterval.Lasts
  incidentInterval : ∀ d, s.incidentInterval = some d → d.Lasts
  duty : s.reverse → s.activeWindow.Lasts ∨ s.inactiveWindow.Lasts

/-! ### Levels -/

/-- Whether a node has still to find out whether it leads. -/
def Status.isUndecided : Status → Bool
  | .init | .headElection => true
  | _ => false

def Timer.isDuty : Timer → Bool
  | .dutyActive | .dutyInactive => true
  | _ => false

/-- Duty cycles are for waves in reverse. -/
def Timer.Fits (s : Settings) (timer : Timer) : Prop := timer.isDuty → s.reverse

lemma Timer.fits_of_not_isDuty {s : Settings} {timer : Timer} (h : timer.isDuty = false) :
    timer.Fits s := fun hd => by simp [h] at hd

/-- Of the two windows of a duty cycle one lasts, and the timer that arms its end is the lower
one. -/
def Timer.level (s : Settings) : Timer → Nat
  | .start | .upkeep => 6
  | .stop => 5
  | .send | .electionCheck | .decide | .retransmit .. | .intraBroadcast | .incident => 4
  | .activate => 2
  | .dutyActive => if s.activeWindow.Lasts then 0 else 1
  | .dutyInactive => if s.inactiveWindow.Lasts then 0 else 1
  | .complete => 0

/-- An incident is relayed if it comes from its origin. -/
def Message.level (sender : NodeId) : Message → Nat
  | .intraCluster .. => 3
  | .densityMap .. | .interCluster .. => 1
  | .incident origin .. => if origin = sender then 1 else 0
  | _ => 0

def Packet.level (sender : NodeId) (p : Packet) : Nat :=
  (p.messages.map (Message.level sender)).foldr max 0

/-- The level of the packet that a byte string is read as. -/
def dataLevel (sender : NodeId) (data : List UInt8) : Nat :=
  match Packet.decode? data with
  | .ok packet => packet.level sender
  | .error _ => 0

def Call.level (s : Settings) : Call → Nat
  | .start => 7
  | .formCluster => 5
  | .timer t => t.level s
  | .packet sender p => p.level sender

def Call.Fits (s : Settings) : Call → Prop
  | .timer t => t.Fits s
  | _ => True

lemma Message.level_le (sender : NodeId) (m : Message) : m.level sender ≤ 3 := by
  cases m with
  | incident origin =>
    simp only [level]
    split <;> decide
  | _ => simp [level]

namespace Packet

variable {sender : NodeId}

lemma level_le_of_mem {p : Packet} {m : Message} (h : m ∈ p.messages) :
    m.level sender ≤ p.level sender := by
  obtain ⟨ms⟩ := p
  unfold level
  induction ms with
  | nil => cases h
  | cons m' ms ih =>
    rcases List.mem_cons.1 h with rfl | h
    · exact Nat.le_max_left _ _
    · exact Nat.le_trans (ih h) (Nat.le_max_right _ _)

lemma level_le (sender : NodeId) (p : Packet) : p.level sender ≤ 3 := by
  unfold level
  induction p.messages with
  | nil => exact Nat.zero_le _
  | cons m ms ih => exact Nat.max_le.2 ⟨m.level_le sender, ih⟩

lemma level_single (sender : NodeId) (m : Message) : (single m).level sender = m.level sender :=
  Nat.max_zero _

end Packet

lemma dataLevel_le (sender : NodeId) (data : List UInt8) : dataLevel sender data ≤ 3 := by
  simp only [dataLevel]
  split
  · exact Packet.level_le sender _
  · exact Nat.zero_le _

lemma dataLevel_single (sender : NodeId) {m : Message} (h : m.IsWritable) :
    dataLevel sender (encode (Packet.single m)) = m.level sender := by
  rw [dataLevel, Packet.decode?_encode (Packet.isWritable_single h)]
  exact Packet.level_single sender m

/-- What a node asks for may be due at once only if its level is below a bound. -/
def Effect.Paced (s : Settings) (id : NodeId) (bound : Nat) : Effect → Prop
  | .broadcast packet | .send _ packet => dataLevel id (encode packet) < bound
  | .schedule _ delay timer => timer.Fits s ∧ (delay.Lasts ∨ timer.level s < bound)
  | .cancel _ => True

lemma Effect.Paced.mono {s : Settings} {id : NodeId} {b b' : Nat} {e : Effect}
    (h : e.Paced s id b) (hb : b ≤ b') : e.Paced s id b' := by
  cases e with
  | broadcast | send => exact Nat.lt_of_lt_of_le h hb
  | schedule => exact ⟨h.1, h.2.imp_right fun h => Nat.lt_of_lt_of_le h hb⟩
  | cancel => trivial

/-! ### Allowances -/

namespace Node

def isUndecided (n : Node) : Bool := n.status.isUndecided

/-- Below which level a node may ask for something at once, in a call of the level `b` that leaves
it as `n'`. -/
def allowance (n n' : Node) (b : Nat) : Nat :=
  if n'.schedule.start < n.schedule.start then max 7 b
  else if n.isUndecided ∧ ¬ n'.isUndecided then max 5 b
  else b

variable {n n' n'' : Node} {b b' : Nat}

lemma le_allowance (n n' : Node) (b : Nat) : b ≤ n.allowance n' b := by
  simp only [allowance]
  split
  · exact Nat.le_max_right _ _
  · split
    · exact Nat.le_max_right _ _
    · exact Nat.le_refl b

lemma allowance_le (n n' : Node) (b : Nat) : n.allowance n' b ≤ max 7 b := by
  simp only [allowance]
  split
  · exact Nat.le_refl _
  · split <;> omega

lemma allowance_mono (n n' : Node) (h : b ≤ b') : n.allowance n' b ≤ n.allowance n' b' := by
  simp only [allowance]
  split
  · omega
  · split <;> omega

lemma allowance_of_lt (h : n'.schedule.start < n.schedule.start) :
    n.allowance n' b = max 7 b := if_pos h

lemma allowance_of_eq (h : n'.schedule.start = n.schedule.start) : n.allowance n' b =
    if n.isUndecided ∧ ¬ n'.isUndecided then max 5 b else b := by
  rw [allowance, if_neg (by simp [h])]

end Node

end ClusterWave
