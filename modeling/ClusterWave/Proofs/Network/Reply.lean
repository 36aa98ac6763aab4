import ClusterWave.Proofs.Network.Acknowledgment
import ClusterWave.Proofs.Node.Role

/-!
# Whom an acknowledgment speaks for

A message is kept pending under the name of the peer that it is sent to, and the peer acknowledges
it under the name of its cluster. These names agree for a head and for a node that stands alone. A
member speaks for its head: its acknowledgment leaves the message pending that it answers, and takes
away the one that is pending for the head, which has not handled it.
-/

namespace ClusterWave

/-! ### Steps that send nothing -/

/-- Whether an effect sends nothing. -/
def Effect.IsSilent (e : Effect) : Prop := Note.ofEffect? e = none

/-- What is sent, first one first. -/
def Outbox.notes (o : Outbox) : List Note := o.effects.filterMap Note.ofEffect?

open Outbox (Step Steps)

lemma Outbox.Steps.notes_eq {o o' : Outbox} (h : Steps Effect.IsSilent o o') :
    o'.notes = o.notes := by
  induction h with
  | refl => rfl
  | tail _ h ih =>
    obtain ⟨e, he, hok⟩ := h.effects
    have hsilent : Note.ofEffect? e = none := by
      rcases hok with ⟨handle, rfl⟩ | hok
      · rfl
      · exact hok
    rw [Outbox.notes, he, List.filterMap_append, ← Outbox.notes, ih]
    simp [hsilent]

namespace Turn

variable {t : Turn}

lemma silent_arm (t : Turn) (slot : Slot) (delay : Duration) (timer : Timer) :
    Steps Effect.IsSilent t.outbox (t.arm slot delay timer).outbox :=
  have h : Effect.IsSilent (.schedule t.outbox.handle delay timer) := rfl
  (Step.schedule t.outbox h).steps

lemma silent_scheduleActivation (t : Turn) :
    Steps Effect.IsSilent t.outbox t.scheduleActivation.outbox := by
  simp only [scheduleActivation]
  split
  · exact .refl _
  · exact (Steps.disarm (t.setStatus .ready) _).trans (silent_arm _ _ _ _)

lemma silent_startFirst (t : Turn) : Steps Effect.IsSilent t.outbox t.startFirst.outbox := by
  simp only [startFirst]
  split
  · exact silent_scheduleActivation (t.setSchedule t.node.schedule.startWithCluster.1)
  · exact .refl _

lemma silent_announceLater (t : Turn) : Steps Effect.IsSilent t.outbox t.announceLater.outbox := by
  simp only [announceLater]
  split
  · exact .refl _
  · exact (Steps.disarm t _).trans (silent_arm _ _ _ _)

lemma silent_offers (source : Vec2) (fs : List Forward) (acc : Turn × Duration) :
    Steps Effect.IsSilent acc.1.outbox (fs.foldl (offer source) acc).1.outbox := by
  induction fs generalizing acc with
  | nil => exact .refl _
  | cons f fs ih =>
    refine Steps.trans ?_ (ih (offer source acc f))
    exact Steps.sendReliably acc.1.advanceSeq _ _ _ fun _ => rfl

/-- Nothing is sent at once when a wavefront is launched. -/
lemma silent_launch (t : Turn) (origin : NodeId) (incoming : Vec2) :
    Steps Effect.IsSilent t.outbox (t.launch origin incoming).outbox := by
  simp only [launch]
  split
  · exact .refl _
  · rename_i source _
    have hc : Steps Effect.IsSilent t.outbox (t.cancelKind .interCluster).outbox := .cancels _ _
    split
    · exact hc
    · rename_i plan _
      let offered := (plan.forwards.foldl (offer source) (t.cancelKind .interCluster,
        t.node.settings.backoff)).1.setDirection (some plan.direction)
      have ho : Steps Effect.IsSilent t.outbox offered.announceLater.outbox :=
        (hc.trans (silent_offers source plan.forwards (_, _))).trans (silent_announceLater offered)
      split
      · exact ho.trans (silent_startFirst offered.announceLater)
      · exact ho

lemma silent_considerOffer (t : Turn) (source destination direction : Vec2)
    (startTime : Timestamp) : Steps Effect.IsSilent t.outbox
      (t.considerOffer source destination direction startTime).outbox := by
  simp only [considerOffer]
  split
  · exact .refl _
  · split
    · exact .refl _
    · rename_i candidate _ _ time _
      split
      · exact silent_launch
          (t.setSchedule (t.node.schedule.relaxFirstStart time candidate.id t.now).1) _ _
      · exact .refl _

/-! ### Replies -/

end Turn

/-- A message that asks for an acknowledgment is answered at once and with nothing else. -/
lemma Turn.notes_onMessage (t : Turn) (sender : NodeId) {m : Message} {peer : NodeId}
    (hr : m.replyTo? = some peer) (hw : m.isWellShaped) : ∃ seq, m.seq? = some seq ∧
      (t.onMessage sender m).outbox.notes =
        t.outbox.notes ++ [.send peer (Packet.single (.ack seq t.node.ackName m.kind))] := by
  cases m with
  | densityMap seq cluster r map =>
    cases hr
    refine ⟨seq, rfl, ?_⟩
    obtain ⟨_, hc⟩ := Option.isSome_iff_exists.1 hw
    simp only [Turn.onMessage, Turn.onDensityMap]
    rw [eq_ok_of_toOption hc]
    exact List.filterMap_append
  | interCluster seq cluster source destination direction startTime =>
    cases hr
    refine ⟨seq, rfl, ?_⟩
    have hs : (t.send peer (.ack seq t.node.ackName .interCluster)).outbox.notes =
        t.outbox.notes ++ [.send peer (Packet.single (.ack seq t.node.ackName .interCluster))] :=
      List.filterMap_append
    simp only [Turn.onMessage, Turn.onInterCluster]
    split
    · exact (Turn.silent_considerOffer _ _ _ _ _).notes_eq.trans hs
    · exact hs
  | _ => cases hr

namespace Node

variable {n : Node} {v : Visit}

lemma notes_visit (n : Node) {sender peer : NodeId} {m : Message}
    (hv : v.call = .packet sender (Packet.single m)) (hr : m.replyTo? = some peer)
    (hw : m.isWellShaped) : ∃ seq, m.seq? = some seq ∧ (n.visit v).outbox.notes =
      [.send peer (Packet.single (.ack seq n.ackName m.kind))] := by
  rw [visit_single n hv, Turn.outbox_noteRole]
  exact Turn.notes_onMessage _ sender hr hw

/-- The name under which a node acknowledges is its own, unless it is a member. -/
lemma ackName_eq_iff (h : n.record.isConsistent) : n.ackName = n.id ↔ ¬ n.record.isMember := by
  obtain ⟨hhead, hmember, halone⟩ := Record.isConsistent_iff.1 h
  simp only [ackName, Record.isMember, beq_iff_eq]
  cases hd : n.record.degree with
  | head =>
    rw [hhead.1 hd]
    exact ⟨fun _ => nofun, fun _ => rfl⟩
  | standalone =>
    rw [halone hd]
    exact ⟨fun _ => nofun, fun _ => rfl⟩
  | member =>
    obtain ⟨c, hc, hne⟩ := hmember hd
    rw [hc]
    exact ⟨fun he => absurd he hne, fun hn => absurd rfl hn⟩

lemma IsNew.after_record (h : n.IsNew) (vs : List Visit) :
    (n.after vs).record.isConsistent ∧ (n.after vs).id = n.id := by
  obtain ⟨id, settings, isStarter, velocity, h⟩ := h
  have hup := upright_of_create h vs
  exact ⟨hup.consistent, hup.id⟩

lemma IsNew.signs (h : n.IsNew) (vs : List Visit) : (n.after vs).Signs := by
  have h₀ : n.Signs := .of_isNew h
  clear h
  induction vs generalizing n with
  | nil => exact h₀
  | cons v vs ih => exact ih (h₀.visit v)

end Node

/-- Erasing different keys is the same only if there is nothing to erase. -/
lemma Table.eq_of_erase_eq {κ α : Type} [Rank κ] {t : Table κ α} {k k' : κ}
    (h : t.erase k = t.erase k') (hk : (t.get? k').isSome) : k = k' := by
  by_contra hne
  have hs := congrArg (Table.get? · k') h
  simp only [get?_erase_self] at hs
  rw [get?_erase_of_ne t (Ne.symm hne)] at hs
  rw [hs] at hk
  cases hk

/-- A node that has handled a message, whatever it has been through, answers with one packet, an
acknowledgment to the sender under the name of its own cluster. Whenever that arrives while the
message is pending, it takes away what is pending under this name, and nothing else. That is the
message which it answers, unless the node is a member: then the message stays pending, and what was
pending for the head of the node is gone. -/
theorem acknowledgment_matches_iff {s r : Node} (hs : s.IsNew) (hr : r.IsNew)
    (us ws : List Visit) {kind : MessageKind} {p : Pending} {v : Visit} {sender : NodeId}
    (hp : (s.after us).reliable.pending.get? (r.id, kind) = some p)
    (hw : p.message.isWellShaped) (hv : v.call = .packet sender (Packet.single p.message)) :
    ∃ seq name, p.message.seq? = some seq ∧ name = (r.after ws).ackName ∧
      ((r.after ws).visit v).outbox.notes =
        [.send s.id (Packet.single (.ack seq name kind))] ∧
      ∀ us' q w, (s.after us').reliable.pending.get? (r.id, kind) = some q →
        w.call = .packet r.id (Packet.single (.ack seq name kind)) →
        ((s.after us').visit w).node.reliable.pending =
            (s.after us').reliable.pending.erase (name, kind) ∧
          (((s.after us').visit w).node.reliable.pending =
              (s.after us').reliable.pending.erase (r.id, kind) ↔
            ¬ (r.after ws).record.isMember) ∧
          ((r.after ws).record.isMember → name ≠ r.id ∧
            ((s.after us').visit w).node.reliable.pending.get? (r.id, kind) = some q ∧
            ((s.after us').visit w).node.reliable.pending.get? (name, kind) = none) := by
  have hsig := hs.signs us
  have hsid := (hs.after_record us).2
  obtain ⟨hcons, hrid⟩ := hr.after_record ws
  have hreply : p.message.replyTo? = some s.id := (hsig.replyTo? _ _ hp).trans (congrArg some hsid)
  obtain ⟨seq, hseq, hnotes⟩ := (r.after ws).notes_visit hv hreply hw
  rw [← hsig.kind _ _ hp] at hnotes
  refine ⟨seq, (r.after ws).ackName, hseq, rfl, hnotes, ?_⟩
  intro us' q w hq hack
  have herase := (s.after us').erase_visit_ack hack rfl
  have hname : (r.after ws).ackName = r.id ↔ ¬ (r.after ws).record.isMember :=
    hrid ▸ Node.ackName_eq_iff hcons
  refine ⟨herase, ?_, fun hm => ?_⟩
  · rw [herase, ← hname]
    constructor
    · intro he
      exact congrArg Prod.fst (Table.eq_of_erase_eq he (hq ▸ rfl))
    · intro he
      rw [he]
  · have hne : (r.after ws).ackName ≠ r.id := fun he => hname.1 he hm
    rw [herase, Table.get?_erase_of_ne _ fun he => hne (congrArg Prod.fst he).symm]
    exact ⟨hne, hq, Table.get?_erase_self _ _⟩

/-- The visits of a head that hears of the clusters of nodes 1 and 9, up to the end of
clustering. -/
def twoMaps : List Visit :=
  [⟨.start, Vec3.zero, 1, .start⟩, ⟨.start, Vec3.zero, 3, .formCluster⟩,
    ⟨.start, Vec3.zero, 4, .timer .send⟩,
    ⟨.ofSecs 1, Vec3.zero, 5, .packet ⟨1⟩
      (Packet.single (.clusterInfo 1 (Record.lone ⟨1⟩ Vec3.zero .start).becomeHead))⟩,
    ⟨.ofSecs 1, Vec3.zero, 5, .packet ⟨9⟩
      (Packet.single (.clusterInfo 1 (Record.lone ⟨9⟩ Vec3.zero .start).becomeHead))⟩,
    ⟨.ofSecs 15, Vec3.zero, 5, .timer .stop⟩]

/-- A node on its own takes the map of a head nearby, and its acknowledgment is effective. -/
theorem loner_reply_matches : ∃ (s r : Node) (p : Pending) (v w : Visit),
    s.IsNew ∧ r.IsNew ∧
      (s.after twoMaps).reliable.pending.get? (r.id, .densityMap) = some p ∧
      p.message.isWellShaped ∧ v.call = .packet s.id (Packet.single p.message) ∧
      ¬ (r.after []).record.isMember ∧
      ((s.after twoMaps).visit w).node.reliable.pending =
        (s.after twoMaps).reliable.pending.erase (r.id, .densityMap) := by
  have hrun : ((Node.create ⟨20⟩ Network.exchangeSettings false none).toOption.any fun s =>
      (Node.create ⟨1⟩ Network.slowSettings false none).toOption.any fun r =>
        ((s.after twoMaps).reliable.pending.get? (r.id, .densityMap)).any fun p =>
          p.message.isWellShaped && !(r.after []).record.isMember) = true := by decide +kernel
  simp only [Option.any_eq_true, Bool.and_eq_true, Bool.not_eq_true'] at hrun
  obtain ⟨s, hs, r, hr, p, hp, hw, hm⟩ := hrun
  let v : Visit := ⟨.ofSecs 16, Vec3.zero, 1, .packet s.id (Packet.single p.message)⟩
  obtain ⟨seq, name, -, -, -, hmatch⟩ :=
    acknowledgment_matches_iff (v := v) (.of_toOption hs) (.of_toOption hr) twoMaps [] hp hw rfl
  let w : Visit :=
    ⟨.ofSecs 16, Vec3.zero, 9, .packet r.id (Packet.single (.ack seq name .densityMap))⟩
  have hnot : ¬ (r.after []).record.isMember := by
    rw [hm]
    exact Bool.false_ne_true
  exact ⟨s, r, p, v, w, .of_toOption hs, .of_toOption hr, hp, hw, rfl, hnot,
    (hmatch twoMaps p w hp rfl).2.1.2 hnot⟩

/-- Node 1 joins the cluster of node 9 and then takes the map of a head nearby. Its acknowledgment
leaves that map pending, and takes the map for node 9 away, which nobody has received. -/
theorem member_acknowledges_for_its_head : ∃ (s r : Node) (ws : List Visit) (p : Pending)
    (v w : Visit) (sender : NodeId) (ack : Packet),
    s.IsNew ∧ r.IsNew ∧
      (s.after twoMaps).reliable.pending.get? (r.id, .densityMap) = some p ∧
      ((s.after twoMaps).reliable.pending.get? (⟨9⟩, .densityMap)).isSome ∧
      p.message.isWellShaped ∧ v.call = .packet sender (Packet.single p.message) ∧
      ((r.after ws).visit v).outbox.notes = [.send s.id ack] ∧ w.call = .packet r.id ack ∧
      ((s.after twoMaps).visit w).node.reliable.pending.get? (r.id, .densityMap) = some p ∧
      ((s.after twoMaps).visit w).node.reliable.pending.get? (⟨9⟩, .densityMap) = none := by
  let ws : List Visit :=
    [⟨.start, Vec3.zero, 1, .start⟩, ⟨.start, Vec3.zero, 2, .timer .start⟩,
      ⟨.ofSecs 2, Vec3.zero, 4, .packet ⟨9⟩
        (Packet.single (.clusterInfo 2 (Record.lone ⟨9⟩ Vec3.zero (.ofSecs 1)).becomeHead))⟩]
  let visit (sender : NodeId) (packet : Packet) : Visit :=
    ⟨.ofSecs 16, Vec3.zero, 9, .packet sender packet⟩
  let ack : Packet := Packet.single (.ack 2 ⟨9⟩ .densityMap)
  have hrun : ((Node.create ⟨20⟩ Network.exchangeSettings false none).toOption.any fun s =>
      (Node.create ⟨1⟩ Network.slowSettings false none).toOption.any fun r =>
        ((s.after twoMaps).reliable.pending.get? (r.id, .densityMap)).any fun p =>
          ((s.after twoMaps).reliable.pending.get? (⟨9⟩, .densityMap)).isSome &&
          p.message.isWellShaped &&
          decide (((r.after ws).visit (visit s.id (Packet.single p.message))).outbox.notes =
            [.send s.id ack]) &&
          decide (((s.after twoMaps).visit (visit r.id ack)).node.reliable.pending.get?
            (r.id, .densityMap) = some p) &&
          decide (((s.after twoMaps).visit (visit r.id ack)).node.reliable.pending.get?
            (⟨9⟩, .densityMap) = none)) = true := by decide +kernel
  simp only [Option.any_eq_true, Bool.and_eq_true, decide_eq_true_eq] at hrun
  obtain ⟨s, hs, r, hr, p, hp, ⟨⟨⟨hother, hw⟩, hnotes⟩, hstays⟩, hgone⟩ := hrun
  exact ⟨s, r, ws, p, visit s.id (Packet.single p.message), visit r.id ack, s.id, ack,
    .of_toOption hs, .of_toOption hr, hp, hother, hw, rfl, hnotes, rfl, hstays, hgone⟩

end ClusterWave
