import ClusterWave.Proofs.Simulation.Balance
import ClusterWave.Proofs.Simulation.Chronicle
import ClusterWave.Proofs.Simulation.Replay

/-!
# Packets are conserved

The tally, the agenda and the timeline agree on how many packets have been sent, dropped and
delivered, and the chronicle on which ones: every packet that is delivered is handed over once, as
it was sent.
-/

namespace ClusterWave

/-- Whether a packet was handed over in a visit. -/
def Episode.isHandover (x : Episode) : Bool := x.deed.visit.call.isPacket

namespace Simulation

variable {s s' : Simulation} {log : List Episode}

/-! ### Arrivals are handed over -/

/-- A call takes no arrival down. -/
lemma arrivals_call (s : Simulation) (id : NodeId) (c : Call) :
    (s.call id c).occurrences Occurrence.isArrival = s.occurrences Occurrence.isArrival := by
  cases hp : s.directory.resolve? id s.now with
  | none => simp only [call, hp]
  | some position =>
    cases hn : s.nodes.get? id with
    | none => simp only [call, hp, hn]
    | some n =>
      obtain ⟨drops, ht, hdrops⟩ := timeline_call c hp hn
      have hnone : drops.countP Occurrence.isArrival = 0 := by
        rw [List.countP_eq_zero]
        intro o ho harrival
        have hdrop := (hdrops o ho).1
        cases o with
        | delivered => cases hdrop
        | _ => cases harrival
      rw [occurrences, ht, List.countP_append, List.countP_append, hnone,
        countP_changes fun _ => .inl]
      rfl

lemma countP_isPacket_deed? {id : NodeId} {c : Call} (h : c.isPacket = false) :
    (s.deed? id c).toList.countP (fun d => d.visit.call.isPacket) = 0 := by
  cases hd : s.deed? id c with
  | none => rfl
  | some d => simp [(called_of_deed? hd).2.1, h]

/-- An event takes an arrival down exactly if it leads to a visit with a packet. -/
lemma arrivals_process (h : s.Replays none) (e : Event) :
    (s.process e).occurrences Occurrence.isArrival = s.occurrences Occurrence.isArrival +
      (s.answer? e).toList.countP fun d => d.visit.call.isPacket := by
  cases e with
  | timer node handle timer =>
    show (s.call node _).occurrences _ = _ + (s.deed? node _).toList.countP _
    rw [arrivals_call, countP_isPacket_deed? rfl, Nat.add_zero]
  | departure node => exact occurrences_record _ _ _
  | delivery receiver sender data =>
    cases hdata : Packet.decode? data with
    | error fault =>
      simp only [process, deliver, answer?, hdata]
      rfl
    | ok packet =>
      simp only [process, deliver, answer?, hdata]
      split
      · rename_i hactive
        obtain ⟨position, hp⟩ := Option.isSome_iff_exists.1 hactive
        obtain ⟨n, hn⟩ := h.exists_node hp
        rw [arrivals_call, occurrences_record]
        simp only [deed?, hp, hn]
        rfl
      · rename_i hactive
        have hp : s.directory.resolve? receiver s.now = none :=
          Option.not_isSome_iff_eq_none.1 hactive
        rw [drop, occurrences_record]
        simp only [deed?, hp]
        rfl

lemma arrivals_advance (s : Simulation) (time : Timestamp) :
    (s.advance time).occurrences Occurrence.isArrival =
      s.occurrences Occurrence.isArrival := by
  simp only [advance]
  split <;> rfl

lemma arrivals_step (h : s.Replays none) (limit : Timestamp) :
    (s.step limit).1.occurrences Occurrence.isArrival =
      s.occurrences Occurrence.isArrival + (s.episode limit).countP Episode.isHandover := by
  rcases hp : s.agenda.popDue limit with ⟨found, g⟩
  cases found with
  | none =>
    simp only [step, episode, hp]
    rfl
  | some a =>
    have hg : Replays none { s with agenda := g } := h.of_eq rfl rfl rfl rfl
    have hprocess := arrivals_process (hg.advance a.time) a.event
    rw [arrivals_advance] at hprocess
    simp only [step, episode, hp, List.countP_map]
    exact hprocess

lemma arrivals_runUntil {limit : Timestamp} {fuel : Nat} (h : s.Replays none)
    (hr : s.runUntil? limit fuel = some s') :
    s'.occurrences Occurrence.isArrival =
      s.occurrences Occurrence.isArrival + (s.episodes limit fuel).countP Episode.isHandover := by
  induction fuel generalizing s with
  | zero => cases hr
  | succ fuel ih =>
    have hstep := arrivals_step h limit
    have hreplays := h.step limit
    rcases hs : s.step limit with ⟨t, due⟩
    rw [hs] at hstep hreplays
    simp only [runUntil?, hs] at hr
    simp only [episodes, hs]
    cases due with
    | true => rw [ih hreplays hr, hstep, List.countP_append, Nat.add_assoc]
    | false =>
      cases hr
      rw [episode_of_step_eq_false hs] at hstep
      rw [arrivals_advance]
      exact hstep

/-- A chronicle has as many visits with a packet as packets were delivered. -/
lemma Chronicle.arrivals (h : Chronicle log s) :
    s.occurrences Occurrence.isArrival = log.countP Episode.isHandover := by
  induction h with
  | create h =>
    obtain ⟨channel, rfl⟩ := exists_of_create h
    rfl
  | @addNode _ s id _ _ _ _ node directory _ _ _ ih =>
    have hstart : ((s.join id node directory).deed? id .start).toList.countP
        (Episode.isHandover ∘ Episode.mk none) = 0 := countP_isPacket_deed? rfl
    rw [arrivals_call, List.countP_append, List.countP_map, hstart]
    exact ih
  | addDropRule r _ ih => exact ih
  | scheduleDeparture id time _ ih => exact ih
  | runUntil hs hr ih => rw [arrivals_runUntil hs.reached.replays hr, ih, List.countP_append]

/-- Packets are conserved, whatever has been done with a simulation. A packet that was handed to the
channel, or that was for a receiver that there was not, has been delivered, dropped or found
unreadable, or it is still to arrive; the tally counts the arrivals and drops on the timeline. The
chronicle has a visit for every packet that was delivered. An appointment is kept once at most and
gone from then on. The packet that is handed over in a visit was in the appointment for which the
visit took place, and the sender had asked for it to be sent to the receiver, as it is: a map whose
cells cannot be counted would not arrive as it was sent, but there is no room for one in the memory
of a node. -/
theorem packets_conserved (hs : s.Reached) :
    s.tally.transmissions + s.occurrences Occurrence.isUnknownDrop =
        s.tally.deliveries + s.tally.dropped + s.tally.decodeErrors + s.agenda.underway ∧
      s.tally.deliveries = s.occurrences Occurrence.isArrival ∧
      s.tally.dropped = s.occurrences Occurrence.isDrop ∧
      (∃ log, Chronicle log s) ∧
      ∀ log, Chronicle log s →
        log.countP Episode.isHandover = s.tally.deliveries ∧
        (kept log ++ s.agenda.appointments.map Appointment.seq).Nodup ∧
        ∀ past x future sender p, log = past ++ x :: future →
          x.deed.visit.call = .packet sender p →
          ∃ a q, x.cause = some a ∧ a.event = .delivery x.deed.id sender (encode q) ∧
            ∃ y ∈ past, y.deed.id = sender ∧ y.deed.Sends x.deed.id q ∧
              (y.deed.before.settings.grid.IsCountable → p = q) := by
  obtain ⟨hbalance, hdeliveries, hdropped⟩ := hs.balanced
  refine ⟨hbalance, hdeliveries, hdropped, hs.chronicle, fun log hlog => ?_⟩
  have hfaithful := hlog.faithful
  refine ⟨hlog.arrivals.symm.trans hdeliveries.symm, hfaithful.numbered.distinct, ?_⟩
  intro past x future sender p heq hc
  obtain ⟨a, data, hcause, hevent, hdata, y, hy, hsender, q, hsends, rfl, hw⟩ :=
    hfaithful.handed past x future heq sender p hc
  refine ⟨a, q, hcause, hevent, y, hy, hsender, hsends, fun hg => ?_⟩
  rw [Packet.decode?_encode (hw hg)] at hdata
  exact (Except.ok.inj hdata).symm

/-- A pair of nodes is run for three seconds, in which packets are handed over. -/
theorem pair_packets_conserved : ∃ (s : Simulation) (log past future : List Episode) (x : Episode)
    (sender : NodeId) (p : Packet), s.Reached ∧ Chronicle log s ∧ 0 < s.tally.transmissions ∧
      log = past ++ x :: future ∧ x.deed.visit.call = .packet sender p ∧
      s.tally.transmissions + s.occurrences Occurrence.isUnknownDrop =
        s.tally.deliveries + s.tally.dropped + s.tally.decodeErrors + s.agenda.underway ∧
      log.countP Episode.isHandover = s.tally.deliveries ∧
      ∃ a q, x.cause = some a ∧ a.event = .delivery x.deed.id sender (encode q) ∧
        ∃ y ∈ past, y.deed.id = sender ∧ y.deed.Sends x.deed.id q ∧
          (y.deed.before.settings.grid.IsCountable → p = q) := by
  have h : (pair?.any fun s => 0 < s.tally.transmissions ∧ 0 < s.tally.deliveries) = true := by
    decide +kernel
  simp only [Option.any_eq_true, decide_eq_true_eq] at h
  obtain ⟨s, hs, htransmissions, hdeliveries⟩ := h
  have hreached := reached_pair hs
  obtain ⟨hbalance, -, -, ⟨log, hlog⟩, hall⟩ := packets_conserved hreached
  obtain ⟨hcount, -, hhanded⟩ := hall log hlog
  rw [← hcount, List.countP_pos_iff] at hdeliveries
  obtain ⟨x, hx, hpacket⟩ := hdeliveries
  obtain ⟨past, future, rfl⟩ := List.append_of_mem hx
  cases hc : x.deed.visit.call with
  | packet sender p =>
    exact ⟨s, _, past, future, x, sender, p, hreached, hlog, htransmissions, rfl, hc, hbalance,
      hcount, hhanded past x future sender p rfl hc⟩
  | _ =>
    rw [Episode.isHandover, hc] at hpacket
    cases hpacket

end Simulation

end ClusterWave
