import ClusterWave.Proofs.Node.Handle
import ClusterWave.Proofs.Time

/-!
# What a node asks for

An outbox grows effect by effect. `Asked` lists the effects that a move may ask for, and under which
condition it does so, and `Move.asked` says that there are no others.
-/

namespace ClusterWave

namespace Outbox

/-- One more effect is asked for. -/
inductive Step (ok : Effect → Prop) : Outbox → Outbox → Prop where
  | schedule (o : Outbox) {delay : Duration} {timer : Timer}
      (h : ok (.schedule o.handle delay timer)) : Step ok o (o.schedule delay timer)
  | cancel (o : Outbox) (handle : TimerHandle) : Step ok o (o.cancel handle)
  | broadcast (o : Outbox) {p : Packet} (h : ok (.broadcast p)) : Step ok o (o.broadcast p)
  | send (o : Outbox) {peer : NodeId} {p : Packet} (h : ok (.send peer p)) :
      Step ok o (o.send peer p)

/-- Some more effects are asked for. -/
def Steps (ok : Effect → Prop) : Outbox → Outbox → Prop := Relation.ReflTransGen (Step ok)

variable {ok : Effect → Prop} {o o' o'' : Outbox}

lemma Step.steps (h : Step ok o o') : Steps ok o o' := .single h

lemma Step.effects (h : Step ok o o') :
    ∃ e, o'.effects = o.effects ++ [e] ∧ ((∃ handle, e = .cancel handle) ∨ ok e) := by
  cases h with
  | schedule h => exact ⟨_, rfl, .inr h⟩
  | cancel handle => exact ⟨_, rfl, .inl ⟨handle, rfl⟩⟩
  | broadcast h => exact ⟨_, rfl, .inr h⟩
  | send h => exact ⟨_, rfl, .inr h⟩

namespace Steps

lemma refl (o : Outbox) : Steps ok o o := Relation.ReflTransGen.refl

lemma trans (h : Steps ok o o') (h' : Steps ok o' o'') : Steps ok o o'' :=
  Relation.ReflTransGen.trans h h'

lemma tail (h : Steps ok o o') (h' : Step ok o' o'') : Steps ok o o'' :=
  Relation.ReflTransGen.tail h h'

lemma mono {ok' : Effect → Prop} (h : Steps ok o o') (hok : ∀ e, ok e → ok' e) :
    Steps ok' o o' := by
  refine Relation.ReflTransGen.mono (fun o o' hs => ?_) _ _ h
  cases hs with
  | schedule h => exact .schedule _ (hok _ h)
  | cancel handle => exact .cancel _ handle
  | broadcast h => exact .broadcast _ (hok _ h)
  | send h => exact .send _ (hok _ h)

/-- An effect was asked for before, or it cancels a timer, or it may be asked for. -/
lemma mem_effects (h : Steps ok o o') {e : Effect} (he : e ∈ o'.effects) :
    e ∈ o.effects ∨ (∃ handle, e = .cancel handle) ∨ ok e := by
  induction h with
  | refl => exact .inl he
  | tail _ h ih =>
    obtain ⟨e', heq, hok⟩ := h.effects
    rw [heq, List.mem_append, List.mem_singleton] at he
    rcases he with he | rfl
    · exact ih he
    · exact .inr hok

lemma silence (o : Outbox) (p : Option Pending) : Steps ok o (ReliableSender.silence o p) := by
  cases p with
  | none => exact refl o
  | some p => exact (Step.cancel o p.timer).steps

lemma cancels (ps : List Pending) (o : Outbox) :
    Steps ok o (ps.foldl (fun o p => o.cancel p.timer) o) := by
  induction ps generalizing o with
  | nil => exact refl o
  | cons p ps ih => exact (Step.cancel o p.timer).steps.trans (ih _)

lemma sendReliably (t : Turn) (peer : NodeId) (m : Message) (delay : Duration)
    (h : ∀ handle, ok (.schedule handle delay (.retransmit peer m.kind))) :
    Steps ok t.outbox (t.sendReliably peer m delay).outbox :=
  (Step.schedule t.outbox (h _)).steps.trans (silence _ _)

lemma disarm (t : Turn) (slot : Slot) : Steps ok t.outbox (t.disarm slot).outbox := by
  simp only [Turn.disarm]
  split
  · exact refl _
  · exact (Step.cancel _ _).steps

end Steps

end Outbox

/-- Whether a timer is armed without a reason of its own. -/
def Timer.isPlain : Timer → Bool
  | .start | .stop | .decide | .activate => false
  | _ => true

/-- The effects that the node `n₀` asks for in the visit `v`, by the end of a move to the turn
`t`. -/
inductive Asked (n₀ : Node) (v : Visit) (t : Turn) : Effect → Prop where
  -- Timers
  | plainTimer (handle : TimerHandle) (delay : Duration) {timer : Timer} (h : timer.isPlain) :
      Asked n₀ v t (.schedule handle delay timer)
  | lifecycle (handle : TimerHandle) (delay : Duration) {timer : Timer} (hv : v.call = .start)
      (h : timer = .start ∨ timer = .stop) : Asked n₀ v t (.schedule handle delay timer)
  | decide (handle : TimerHandle) (delay : Duration) (hv : v.call = .timer .stop) :
      Asked n₀ v t (.schedule handle delay .decide)
  /-- The activation is due at the start, unless waves run in reverse. The start lies ahead; at the
  end of clustering it may be just now. -/
  | activate {handle : TimerHandle} (h : t.now ≤ t.node.schedule.start)
      (hw : t.now < t.node.schedule.start ∨ v.call = .timer .stop)
      (hs : t.node.slots.activation = some handle) :
      Asked n₀ v t (.schedule handle
        (if t.node.settings.reverse then t.node.settings.activationDelay
          else t.node.schedule.start.since t.now) .activate)
  -- Packets
  | plainBroadcast {p : Packet} (h : ∀ m ∈ p.messages, v.Utters t.node.id m)
      (hl : p.messages.length < UInt64.size) : Asked n₀ v t (.broadcast p)
  | incident (peer origin : NodeId) (timestamp : Timestamp) (cluster : Option NodeId)
      (severity : Incident) : Asked n₀ v t
        (.send peer (Packet.single (.incident origin timestamp cluster severity)))
  | answer {m : Message} {peer : NodeId} {seq : UInt64} (name : NodeId) (hm : v.Brings m)
      (hp : m.replyTo? = some peer) (hs : m.seq? = some seq) :
      Asked n₀ v t (.send peer (Packet.single (.ack seq name m.kind)))
  | announce (seq : UInt64) (cluster starter : NodeId) (direction : Vec2) :
      Asked n₀ v t (.broadcast (Packet.single
        (.intraCluster seq cluster starter t.node.schedule.firstStart direction)))
  | passOn (seq : UInt64) (cluster : Option NodeId) (place direction : Vec2)
      (hv : v.call = .timer .activate) :
      Asked n₀ v t (.broadcast (Packet.single
        (.interNode seq cluster place direction t.node.schedule.start)))
  | again {peer : NodeId} {kind : MessageKind} {p : Pending}
      (hv : v.call = .timer (.retransmit peer kind))
      (h : n₀.reliable.pending.get? (peer, kind) = some p) :
      Asked n₀ v t (.send peer (Packet.single p.message))

variable {n₀ : Node} {v : Visit} {t t' : Turn}

open Outbox (Step Steps)

lemma Slot.isPlain_of_rings {slot : Slot} {timer : Timer} (h : slot.rings timer)
    (hne : slot ≠ .activation) : timer.isPlain := by
  cases slot <;> cases timer <;> first | rfl | exact absurd rfl hne | cases h

namespace Outbox.Steps

lemma retransmit {peer : NodeId} {kind : MessageKind}
    (hv : v.call = .timer (.retransmit peer kind)) (h : t.node.reliable = n₀.reliable) :
    Steps (Asked n₀ v t') t.outbox (t.retransmit peer kind).outbox := by
  rw [Turn.outbox_retransmit, h]
  simp only [ReliableSender.transmit]
  split
  · exact .refl _
  · rename_i p hp
    exact (Step.send _ (.again hv hp)).steps.tail (.schedule _ (.plainTimer _ _ rfl))

lemma onAck (t : Turn) (peer : NodeId) (kind : MessageKind) :
    Steps (Asked n₀ v t') t.outbox (t.onAck peer kind).outbox := by
  show Steps _ t.outbox (t.node.reliable.acknowledge t.outbox peer kind).2.1
  simp only [ReliableSender.acknowledge]
  split
  · exact .refl _
  · exact (Step.cancel _ _).steps

lemma scheduleActivation (t : Turn)
    (hw : t.now < t.node.schedule.start ∨ v.call = .timer .stop) :
    Steps (Asked n₀ v t.scheduleActivation) t.outbox t.scheduleActivation.outbox := by
  by_cases h : t.node.schedule.start.isNever ∨ t.node.schedule.start < t.now
  · rw [Turn.scheduleActivation_of_past h]
    exact .refl _
  · have hle : t.now ≤ t.node.schedule.start := Timestamp.not_lt.1 fun hlt => h (.inr hlt)
    have hs : t.scheduleActivation.node.slots.activation =
        some ((t.setStatus .ready).disarm .activation).outbox.handle := by
      rw [Turn.scheduleActivation_of_ahead h]
      rfl
    have ha : Asked n₀ v t.scheduleActivation _ := .activate (by simpa) (by simpa) hs
    have he : t.scheduleActivation.node.settings = t.node.settings := by
      rw [Turn.node_scheduleActivation]
    rw [he, Turn.schedule_scheduleActivation, Turn.now_scheduleActivation] at ha
    have hst := (Steps.disarm (t.setStatus .ready) .activation).tail (.schedule _ ha)
    rw [Turn.scheduleActivation_of_ahead h] at hst ⊢
    exact hst

lemma activate (t : Turn) (hv : v.call = .timer .activate)
    (hs : t'.node.schedule.start = t.node.schedule.start) :
    Steps (Asked n₀ v t') t.outbox t.activate.outbox := by
  have hb : Asked n₀ v t' (.broadcast (Packet.single (.interNode (t.node.seq + 1)
      t.node.record.cluster t.node.record.place (t.node.schedule.direction.getD Vec2.zero)
      t.node.schedule.start))) := hs ▸ .passOn _ _ _ _ hv
  simp only [Turn.activate]
  split
  · refine Steps.tail (Steps.trans ?_ (disarm _ .duty)) (.schedule _ (.plainTimer _ _ rfl))
    exact (Step.broadcast t.outbox hb).steps
  · exact (Step.broadcast t.outbox hb).steps.tail (.schedule _ (.plainTimer _ _ rfl))

end Outbox.Steps

/-- Every move asks only for what is listed. -/
lemma Move.asked (h : Move n₀ v t t') : Steps (Asked n₀ v t') t.outbox t'.outbox := by
  cases h with
  | arm delay h hne => exact (Step.schedule _ (.plainTimer _ _ (Slot.isPlain_of_rings h hne))).steps
  | disarm => exact .disarm _ _
  | lifecycle delay hv h => exact (Step.schedule _ (.lifecycle _ _ hv h)).steps
  | decideLater delay hv => exact (Step.schedule _ (.decide _ _ hv)).steps
  | incidentLater => exact (Step.schedule _ (.plainTimer _ _ rfl)).steps
  | broadcast h hl => exact (Step.broadcast _ (.plainBroadcast h hl)).steps
  | send => exact (Step.send _ (.incident _ _ _ _ _)).steps
  | answer hm hp hs => exact (Step.send _ (.answer _ hm hp hs)).steps
  | announce => exact (Step.broadcast _ (.announce _ _ _ _)).steps
  | offer | sendMap => exact .sendReliably _ _ _ _ fun _ => .plainTimer _ _ rfl
  | cancelOffers => exact .cancels _ _
  | satisfyAll => exact .cancels _ _
  | retransmit hv h => exact .retransmit hv h
  | acknowledged => exact .onAck _ _ _
  | startFirst h =>
    by_cases hlt : t.node.schedule.firstStart < t.node.schedule.start
    · rw [Turn.startFirst_of_lt hlt]
      exact .scheduleActivation _ (.inl h)
    · rw [Turn.startFirst_of_not_lt hlt]
      exact .refl _
  | startAlone hv => exact .scheduleActivation _ (.inr hv)
  | adopt hm hnow hle =>
    refine .scheduleActivation _ (.inl ?_)
    rw [Schedule.adoptStart, if_pos ⟨hnow, hle⟩]
    show t.now < (ite _ _ _ : Schedule × Bool).1.start
    split <;> exact hnow
  | relax hm travel d hnow hlt => exact .scheduleActivation _ (.inl hnow)
  | activate hv =>
    refine .activate (t.setSlot .activation none) hv ?_
    rw [Turn.node_activate]
  | _ => exact .refl _

/-- In a visit the outbox fills up step by step. -/
lemma Node.steps_visit (n : Node) (v : Visit) :
    Steps (fun _ => True) (Outbox.fresh v.nextHandle) (n.visit v).outbox := by
  refine (moves_visit n v).induct (P := fun t =>
    Steps (fun _ => True) (Outbox.fresh v.nextHandle) t.outbox) (.refl _) ?_
  intro t t' h m
  exact h.trans (m.asked.mono fun _ _ => trivial)

/-! ### Timers -/

namespace Asked

variable {handle : TimerHandle} {delay : Duration}

lemma of_activate (h : Asked n₀ v t (.schedule handle delay .activate)) :
    t.now ≤ t.node.schedule.start ∧ (t.now < t.node.schedule.start ∨ v.call = .timer .stop) ∧
      t.node.slots.activation = some handle ∧
      delay = if t.node.settings.reverse then t.node.settings.activationDelay
        else t.node.schedule.start.since t.now := by
  cases h with
  | plainTimer _ _ h => cases h
  | lifecycle _ _ hv h => rcases h with h | h <;> cases h
  | activate h hw hs => exact ⟨h, hw, hs, rfl⟩

/-- The begin of clustering is armed at the start of the node only. -/
lemma of_start (h : Asked n₀ v t (.schedule handle delay .start)) : v.call = .start := by
  cases h with
  | plainTimer _ _ h => cases h
  | lifecycle _ _ hv => exact hv

/-- So is the end of clustering. -/
lemma of_stop (h : Asked n₀ v t (.schedule handle delay .stop)) : v.call = .start := by
  cases h with
  | plainTimer _ _ h => cases h
  | lifecycle _ _ hv => exact hv

/-- The decision is armed at the end of clustering only. -/
lemma of_decide (h : Asked n₀ v t (.schedule handle delay .decide)) : v.call = .timer .stop := by
  cases h with
  | plainTimer _ _ h => cases h
  | lifecycle _ _ _ h => rcases h with h | h <;> cases h
  | decide _ _ hv => exact hv

end Asked

/-! ### Messages -/

/-- The messages that an effect sends. -/
def Effect.messages : Effect → List Message
  | .broadcast packet => packet.messages
  | .send _ packet => packet.messages
  | _ => []

/-- In a visit a node asks only for what is listed, and for timers to be cancelled. -/
lemma asked_of_mem_effects {n : Node} {e : Effect} (he : e ∈ (n.visit v).outbox.effects) :
    (∃ handle, e = .cancel handle) ∨ ∃ t, t.node.id = n.id ∧ Asked n v t e := by
  refine ((moves_visit n v).induct (P := fun t => t.node.id = n.id ∧ ∀ e ∈ t.outbox.effects,
    (∃ handle, e = .cancel handle) ∨ ∃ t, t.node.id = n.id ∧ Asked n v t e)
    ⟨rfl, List.forall_mem_nil _⟩ ?_).2 e he
  rintro t t' ⟨hid, ih⟩ move
  have hid' : t'.node.id = n.id := move.alike.id.trans hid
  refine ⟨hid', ?_⟩
  intro e he
  rcases move.asked.mem_effects he with he | hcancel | hask
  · exact ih e he
  · exact .inl hcancel
  · exact .inr ⟨t', hid', hask⟩

/-- In a visit a node sends only what is listed. -/
lemma asked_of_mem {n : Node} {e : Effect} (he : e ∈ (n.visit v).outbox.effects) {m : Message}
    (hm : m ∈ e.messages) : ∃ t, t.node.id = n.id ∧ Asked n v t e := by
  rcases asked_of_mem_effects he with ⟨handle, rfl⟩ | hask
  · cases hm
  · exact hask

lemma Message.replyTo?_of_isPlain {m : Message} (h : m.isPlain) : m.replyTo? = none := by
  cases m <;> first | rfl | cases h

/-- What asks for an acknowledgment was pending for the peer to which it is sent. -/
lemma Asked.pending_of_replyTo? {e : Effect} (h : Asked n₀ v t e) {m : Message}
    (hm : m ∈ e.messages) (hr : m.replyTo?.isSome) :
    ∃ peer kind p, e = .send peer (Packet.single m) ∧
      n₀.reliable.pending.get? (peer, kind) = some p ∧ p.message = m := by
  have hnone (h : m.replyTo? = none) : False := by
    rw [h] at hr
    cases hr
  cases h with
  | plainBroadcast h => exact (hnone (Message.replyTo?_of_isPlain (h m hm).isPlain)).elim
  | incident => exact (hnone (by rw [List.mem_singleton.1 hm]; rfl)).elim
  | answer => exact (hnone (by rw [List.mem_singleton.1 hm]; rfl)).elim
  | announce => exact (hnone (by rw [List.mem_singleton.1 hm]; rfl)).elim
  | passOn => exact (hnone (by rw [List.mem_singleton.1 hm]; rfl)).elim
  | @again peer kind p hv hp =>
    rw [List.mem_singleton.1 hm]
    exact ⟨peer, kind, p, rfl, hp, rfl⟩
  | _ => cases hm

/-- An acknowledgment answers a message that was brought, to the node that asked for it, unless it
was pending itself. -/
lemma Asked.answers {e : Effect} (h : Asked n₀ v t e) {seq : UInt64} {name : NodeId}
    {kind : MessageKind} (hm : .ack seq name kind ∈ e.messages) :
    (∃ peer m, e = .send peer (Packet.single (.ack seq name kind)) ∧ v.Brings m ∧
      m.replyTo? = some peer ∧ m.seq? = some seq ∧ m.kind = kind) ∨
      ∃ key p, n₀.reliable.pending.get? key = some p ∧ p.message = .ack seq name kind := by
  cases h with
  | plainBroadcast h => cases h _ hm
  | incident => cases List.mem_singleton.1 hm
  | @answer m peer seq' name' hb hr hs =>
    obtain ⟨rfl, rfl, rfl⟩ := Message.ack.inj (List.mem_singleton.1 hm)
    exact .inl ⟨peer, m, rfl, hb, hr, hs, rfl⟩
  | announce => cases List.mem_singleton.1 hm
  | passOn => cases List.mem_singleton.1 hm
  | @again peer kind' p hv hp => exact .inr ⟨_, p, hp, (List.mem_singleton.1 hm).symm⟩
  | _ => cases hm

end ClusterWave
