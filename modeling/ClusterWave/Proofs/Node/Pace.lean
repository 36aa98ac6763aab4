import ClusterWave.Proofs.Node.Level
import ClusterWave.Proofs.Wavefront.Ratchet

/-!
# The pace of a turn

A turn keeps pace with a call of some level if what it asks for at once is of a lower level, unless
the node decides or gets an earlier start. Turns that keep pace can be put together, and so can the
steps of the handlers.
-/

namespace ClusterWave

/-- Upkeep may change the role, but not the number. -/
lemma Registry.id_maintain (g : Registry) (r : Record) (now : Timestamp) (timeout : Duration) :
    (g.maintain r now timeout).2.1.id = r.id := by
  have hl (b : Bool) (r : Record) : (if b then r.leave else r).id = r.id := by cases b <;> rfl
  have hh (b : Bool) (r : Record) : (if b then r.becomeHead else r).id = r.id := by
    cases b <;> rfl
  exact ((hl _ _).trans (hh _ _)).trans (hl _ r)

/-- From one turn to the other the node keeps pace, in a call of the level `b`. -/
structure Turn.Pace (b : Nat) (t t' : Turn) : Prop where
  alike : t.Alike t'
  start : t'.node.schedule.start ≤ t.node.schedule.start
  undecided : t'.node.isUndecided → t.node.isUndecided ∨ 6 ≤ b
  asked : Outbox.Steps
    (Effect.Paced t.node.settings t.node.id (t.node.allowance t'.node b)) t.outbox t'.outbox

variable {b b' : Nat} {t t' t'' : Turn}

lemma Turn.Alike.steady (h : t.Alike t') (hs : t.node.settings.Steady) :
    t'.node.settings.Steady := h.settings ▸ hs

open Outbox (Step Steps)

namespace Turn.Pace

/-! ### Composition -/

/-- A start that stays and a decision that stays leave the bound as it is. -/
lemma quiet (ha : t.Alike t') (hs : t'.node.schedule.start = t.node.schedule.start)
    (hu : t'.node.isUndecided → t.node.isUndecided ∨ 6 ≤ b)
    (ho : Steps (Effect.Paced t.node.settings t.node.id b) t.outbox t'.outbox) : Pace b t t' :=
  ⟨ha, hs ▸ Timestamp.le_refl _, hu, ho.mono fun _ h => h.mono (Node.le_allowance _ _ _)⟩

/-- Nothing is asked for, and neither the start nor the status changes. -/
lemma same (ha : t.Alike t') (hs : t'.node.schedule.start = t.node.schedule.start)
    (hst : t'.node.status = t.node.status) (ho : t'.outbox = t.outbox) : Pace b t t' := by
  refine quiet ha hs ?_ (ho ▸ .refl _)
  rw [Node.isUndecided, hst]
  exact .inl

lemma refl (t : Turn) : Pace b t t := same (.refl t) rfl rfl rfl

lemma trans (h : Pace b t t') (h' : Pace b t' t'') : Pace b t t'' := by
  have hle : t''.node.schedule.start ≤ t.node.schedule.start :=
    Timestamp.le_trans h'.start h.start
  have hund : t''.node.isUndecided → t.node.isUndecided ∨ 6 ≤ b := by
    intro hu
    rcases h'.undecided hu with hu | hb
    · exact h.undecided hu
    · exact .inr hb
  have hbound : t.node.allowance t'.node b ≤ t.node.allowance t''.node b ∧
      t'.node.allowance t''.node b ≤ t.node.allowance t''.node b := by
    by_cases hlt : t''.node.schedule.start < t.node.schedule.start
    · rw [Node.allowance_of_lt hlt]
      exact ⟨Node.allowance_le _ _ _, Node.allowance_le _ _ _⟩
    · have he : t''.node.schedule.start = t.node.schedule.start :=
        Timestamp.le_antisymm hle (Timestamp.not_lt.1 hlt)
      have he' : t'.node.schedule.start = t.node.schedule.start :=
        Timestamp.le_antisymm h.start (he ▸ h'.start)
      rw [Node.allowance_of_eq he, Node.allowance_of_eq he',
        Node.allowance_of_eq (he.trans he'.symm)]
      have h₁ := h.undecided
      have h₂ := h'.undecided
      constructor <;> split <;> split <;> grind
  refine ⟨h.alike.trans h'.alike, hle, hund, (h.asked.mono ?_).trans (h'.asked.mono ?_)⟩
  · exact fun e he => he.mono hbound.1
  · rw [h.alike.settings, h.alike.id]
    exact fun e he => he.mono hbound.2

lemma mono (h : Pace b t t') (hb : b ≤ b') : Pace b' t t' := by
  refine ⟨h.alike, h.start, ?_, h.asked.mono fun e he => he.mono (Node.allowance_mono _ _ hb)⟩
  intro hu
  exact (h.undecided hu).imp_right fun h6 => Nat.le_trans h6 hb

/-- A node that decides may ask for more. -/
lemma of_decided (h : Pace (max 5 b) t t') (hu : t.node.isUndecided)
    (hd : t'.node.isUndecided = false) : Pace b t t' := by
  refine ⟨h.alike, h.start, fun hu' => .inl hu, h.asked.mono fun e he => he.mono ?_⟩
  simp only [Node.allowance]
  split
  · omega
  · rw [if_pos ⟨hu, by simp [hd]⟩, if_pos ⟨hu, by simp [hd]⟩]
    omega

/-- A node that gets an earlier start may ask for more. -/
lemma of_earlier (h : Pace (max 7 b) t t') (hd : t'.node.isUndecided = false)
    (hlt : t'.node.schedule.start < t.node.schedule.start) : Pace b t t' := by
  refine ⟨h.alike, h.start, fun hu => by simp [hd] at hu, h.asked.mono fun e he => he.mono ?_⟩
  rw [Node.allowance_of_lt hlt, Node.allowance_of_lt hlt]
  omega

lemma foldl {α : Type} {f : Turn → α → Turn} (h : ∀ t a, Pace b t (f t a)) (as : List α)
    (t : Turn) : Pace b t (as.foldl f t) := by
  refine List.foldlRecOn (motive := fun u => Pace b t u) _ _ (refl t) ?_
  intro u hu a _
  exact hu.trans (h u a)

/-- A loop that carries a value besides the turn. -/
lemma foldl_fst {α β : Type} {f : Turn × β → α → Turn × β}
    (h : ∀ acc a, Pace b acc.1 (f acc a).1) (as : List α) (acc : Turn × β) :
    Pace b acc.1 (as.foldl f acc).1 := by
  induction as generalizing acc with
  | nil => exact refl acc.1
  | cons a as ih => exact (h acc a).trans (ih _)

/-! ### Single steps -/

lemma setRecord (t : Turn) {r : Record} (h : r.id = t.node.record.id) :
    Pace b t (t.setRecord r) := same ⟨rfl, rfl, h, rfl⟩ rfl rfl rfl

lemma lead (t : Turn) : Pace b t (t.setRecord t.node.record.becomeHead) := setRecord t rfl

lemma join_record (t : Turn) (head : NodeId) :
    Pace b t (t.setRecord (t.node.record.join head)) := setRecord t (Record.id_join _ _)

lemma setRegistry (t : Turn) (g : Registry) : Pace b t (t.setRegistry g) :=
  same ⟨rfl, rfl, rfl, rfl⟩ rfl rfl rfl

lemma advanceSeq (t : Turn) : Pace b t t.advanceSeq := same ⟨rfl, rfl, rfl, rfl⟩ rfl rfl rfl

lemma count (t : Turn) (f : Counters → Counters) : Pace b t (t.count f) :=
  same ⟨rfl, rfl, rfl, rfl⟩ rfl rfl rfl

lemma lastIncident (t : Turn) (i : Option Timestamp) :
    Pace b t (t.edit fun n => { n with lastIncident := i }) :=
  same ⟨rfl, rfl, rfl, rfl⟩ rfl rfl rfl

lemma noteRole (t : Turn) (before : Degree × Option NodeId) : Pace b t (t.noteRole before) := by
  simp only [Turn.noteRole]
  split
  · exact refl t
  · exact count t _

/-- A node becomes undecided only at the highest levels. -/
lemma setStatus (t : Turn) {s : Status} (h : s.isUndecided → t.node.isUndecided ∨ 6 ≤ b) :
    Pace b t (t.setStatus s) := quiet ⟨rfl, rfl, rfl, rfl⟩ rfl h (.refl _)

lemma decided (t : Turn) {s : Status} (h : s.isUndecided = false) : Pace b t (t.setStatus s) :=
  setStatus t fun hs => by simp [h] at hs

lemma setSchedule (t : Turn) {s : Schedule} (h : s.start ≤ t.node.schedule.start) :
    Pace b t (t.setSchedule s) := ⟨⟨rfl, rfl, rfl, rfl⟩, h, .inl, .refl _⟩

lemma setDirection (t : Turn) (d : Option Vec2) : Pace b t (t.setDirection d) :=
  setSchedule t (Timestamp.le_refl _)

lemma setSlot (t : Turn) (slot : Slot) (handle : Option TimerHandle) :
    Pace b t (t.setSlot slot handle) := same ⟨rfl, rfl, rfl, rfl⟩ rfl rfl rfl

lemma schedule (t : Turn) {delay : Duration} {timer : Timer} (hf : timer.Fits t.node.settings)
    (h : delay.Lasts ∨ timer.level t.node.settings < b) : Pace b t (t.schedule delay timer) :=
  quiet ⟨rfl, rfl, rfl, rfl⟩ rfl .inl (Step.schedule _ ⟨hf, h⟩).steps

lemma arm (t : Turn) (slot : Slot) {delay : Duration} {timer : Timer}
    (hf : timer.Fits t.node.settings) (h : delay.Lasts ∨ timer.level t.node.settings < b) :
    Pace b t (t.arm slot delay timer) :=
  (setSlot t slot (some t.outbox.handle)).trans (schedule (t.setSlot slot _) hf h)

lemma disarm (t : Turn) (slot : Slot) : Pace b t (t.disarm slot) := by
  refine quiet (.of_node (t.now_disarm slot) (t.node_disarm slot) rfl rfl rfl) ?_ ?_
    (.disarm t slot) <;> rw [node_disarm]
  exact .inl

/-- A timer is armed in place of the one that is armed. -/
lemma rearm (t : Turn) (slot : Slot) {delay : Duration} {timer : Timer}
    (hf : timer.Fits t.node.settings) (h : delay.Lasts ∨ timer.level t.node.settings < b) :
    Pace b t ((t.disarm slot).arm slot delay timer) := by
  have hd : Pace b t (t.disarm slot) := disarm t slot
  rw [← hd.alike.settings] at hf h
  exact hd.trans (arm _ slot hf h)

lemma queueSend (t : Turn) {delay : Duration} (h : delay.Lasts ∨ 4 < b) :
    Pace b t (t.queueSend delay) := by
  simp only [Turn.queueSend]
  split
  · exact arm t .send (Timer.fits_of_not_isDuty rfl) h
  · exact refl t

lemma broadcastPacket (t : Turn) {p : Packet} (h : dataLevel t.node.id (encode p) < b) :
    Pace b t (t.broadcastPacket p) :=
  quiet ⟨rfl, rfl, rfl, rfl⟩ rfl .inl (Step.broadcast _ h).steps

lemma send (t : Turn) (peer : NodeId) {m : Message}
    (h : dataLevel t.node.id (encode (Packet.single m)) < b) : Pace b t (t.send peer m) :=
  quiet ⟨rfl, rfl, rfl, rfl⟩ rfl .inl (Step.send _ h).steps

lemma sendReliably (t : Turn) (peer : NodeId) (m : Message) {delay : Duration}
    (h : delay.Lasts ∨ 4 < b) : Pace b t (t.sendReliably peer m delay) := by
  refine quiet ⟨rfl, rfl, rfl, rfl⟩ rfl .inl (.sendReliably t peer m delay fun handle => ?_)
  exact ⟨Timer.fits_of_not_isDuty rfl, h⟩

lemma cancelKind (t : Turn) (kind : MessageKind) : Pace b t (t.cancelKind kind) :=
  quiet ⟨rfl, rfl, rfl, rfl⟩ rfl .inl (.cancels _ _)

lemma satisfyAll (t : Turn) : Pace b t t.satisfyAll :=
  quiet ⟨rfl, rfl, rfl, rfl⟩ rfl .inl (.cancels _ _)

/-! ### The wavefront -/

lemma isUndecided_scheduleActivation (t : Turn) :
    t.scheduleActivation.node.isUndecided = false := by
  rw [Node.isUndecided, node_scheduleActivation]
  rfl

lemma scheduleActivation (t : Turn) (h : 2 < b) : Pace b t t.scheduleActivation := by
  have hr : Pace b t (t.setStatus .ready) := decided t rfl
  simp only [Turn.scheduleActivation]
  split
  · exact hr
  · exact hr.trans (rearm _ .activation (Timer.fits_of_not_isDuty rfl) (.inr h))

/-- An earlier start is due at once whatever the level. -/
lemma startEarlier (t : Turn) {s : Schedule} (h : s.start < t.node.schedule.start) :
    Pace b t (t.setSchedule s).scheduleActivation := by
  apply of_earlier
  · refine (setSchedule t (Timestamp.le_of_lt h)).trans (scheduleActivation _ ?_)
    omega
  · exact isUndecided_scheduleActivation _
  · rwa [schedule_scheduleActivation]

lemma startFirst (t : Turn) : Pace b t t.startFirst := by
  by_cases h : t.node.schedule.firstStart < t.node.schedule.start
  · rw [startFirst_of_lt h]
    exact startEarlier t h
  · rw [startFirst_of_not_lt h]
    exact refl t

lemma startAlone (t : Turn) (h : 2 < b) : Pace b t t.startAlone := by
  refine (setSchedule t ?_).trans (scheduleActivation _ h)
  exact ((Schedule.Ratchet.relaxFirstStart _ _ _ t.now).trans (.startWithCluster _)).start

lemma activate (t : Turn) (h : 2 ≤ b) : Pace b t t.activate := by
  have hb (seq : UInt64) (cluster : Option NodeId) (place direction : Vec2) (start : Timestamp) :
      Pace b t ((((t.setStatus .running).count fun c =>
        { c with activations := c.activations + 1 }).advanceSeq).broadcast
        (.interNode seq cluster place direction start)) := by
    refine (((decided t rfl).trans (count _ _)).trans (advanceSeq _)).trans (broadcastPacket _ ?_)
    rw [dataLevel_single _ (by trivial)]
    exact Nat.lt_of_lt_of_le (by decide : 0 < 2) h
  simp only [Turn.activate]
  split
  · rename_i hr
    refine (hb _ _ _ _ _).trans (rearm _ .duty (fun _ => hr) (.inr ?_))
    simp only [Timer.level]
    split <;> omega
  · refine (hb _ _ _ _ _).trans (schedule _ ?_ (.inr ?_))
    · exact Timer.fits_of_not_isDuty rfl
    · exact Nat.lt_of_lt_of_le (by decide : 0 < 2) h

lemma announceLater (t : Turn) (hs : t.node.settings.Steady) : Pace b t t.announceLater := by
  simp only [Turn.announceLater]
  split
  · exact refl t
  · exact rearm t .intra (Timer.fits_of_not_isDuty rfl) (.inl hs.backoff)

/-- The first offer waits, and so do those after it. -/
lemma offers (source : Vec2) (fs : List Forward) (acc : Turn × Duration) (h : acc.2.Lasts) :
    Pace b acc.1 (fs.foldl (Turn.offer source) acc).1 := by
  induction fs generalizing acc with
  | nil => exact refl acc.1
  | cons f fs ih =>
    have hf : Pace b acc.1 (Turn.offer source acc f).1 :=
      (advanceSeq acc.1).trans (sendReliably _ _ _ (.inl h))
    exact hf.trans (ih _ (h.add _))

lemma launch (t : Turn) (origin : NodeId) (incoming : Vec2) (hs : t.node.settings.Steady) :
    Pace b t (t.launch origin incoming) := by
  have hc : Pace b t (t.cancelKind .interCluster) := cancelKind t _
  simp only [Turn.launch]
  split
  · exact refl t
  · rename_i source _
    split
    · exact hc
    · rename_i plan _
      have ho := (hc.trans (offers source plan.forwards
        (t.cancelKind .interCluster, t.node.settings.backoff) hs.backoff)).trans
        (setDirection _ (some plan.direction))
      have ha := ho.trans (announceLater _ (ho.alike.steady hs))
      split
      · exact ha.trans (startFirst _)
      · exact ha

lemma announce (t : Turn) (hs : t.node.settings.Steady) (h : 4 ≤ b) : Pace b t t.announce := by
  simp only [Turn.announce]
  split
  · exact refl t
  · split
    · exact refl t
    · refine ((advanceSeq t).trans (broadcastPacket _ ?_)).trans
        (arm _ .intra (Timer.fits_of_not_isDuty rfl) (.inl hs.interval))
      exact Nat.lt_of_le_of_lt (dataLevel_le _ _) h

lemma sendMaps (map : DensityMap) (peers : List NodeId) (acc : Turn × Duration) (h : 4 < b) :
    Pace b acc.1 (peers.foldl (Turn.sendMap map) acc).1 := by
  apply foldl_fst
  intro acc peer
  exact (advanceSeq acc.1).trans (sendReliably _ _ _ (.inr h))

lemma exchangeMaps (t : Turn) (h : 4 < b) : Pace b t t.exchangeMaps := by
  have hst : Pace b t (t.setStatus .exchangeMaps) := decided t rfl
  have ho (u : Turn) (map : DensityMap) :
      Pace b u (u.edit fun n => { n with ownMap := some map }) :=
    same ⟨rfl, rfl, rfl, rfl⟩ rfl rfl rfl
  refine ((hst.trans (sendMaps _ _ (_, Duration.zero) h)).trans (ho _ _)).trans
    (schedule _ (Timer.fits_of_not_isDuty rfl) (.inr h))

lemma endClustering (t : Turn) (h : 4 < b) : Pace b t t.endClustering := by
  have hc : Pace b t (t.edit fun n => { n with clustering := false }) :=
    same ⟨rfl, rfl, rfl, rfl⟩ rfl rfl rfl
  have hd : Pace b t t.unclustered :=
    ((hc.trans (disarm _ .upkeep)).trans (disarm _ .send)).trans (disarm _ .election)
  simp only [Turn.endClustering]
  split
  · exact hd.trans (exchangeMaps t.unclustered h)
  · exact hd
  · split
    · exact hd.trans (startAlone t.unclustered (by omega))
    · exact hd

lemma decideLaunch (t : Turn) (hs : t.node.settings.Steady) : Pace b t t.decideLaunch := by
  have hf (u : Turn) (keep : NodeId → DensityMap → Bool) :
      Pace b u (u.edit fun n => { n with neighborMaps := n.neighborMaps.filter keep }) :=
    same ⟨rfl, rfl, rfl, rfl⟩ rfl rfl rfl
  have hst : Pace b t (t.setStatus .decide) := decided t rfl
  have hd := (hst.trans (satisfyAll _)).trans (hf _ fun c _ => t.node.registry.foreign.contains c)
  simp only [Turn.decideLaunch]
  split
  · exact hd
  · split
    · exact hd
    · split
      · refine (hd.trans (setSchedule _ ?_)).trans (launch _ _ _ hs)
        exact (Schedule.Ratchet.relaxFirstStart _ _ _ t.now).start
      · exact hd

/-! ### Forming clusters -/

lemma beginClustering (t : Turn) (hs : t.node.settings.Steady) (h : 6 ≤ b) :
    Pace b t t.beginClustering := by
  have hc : Pace b t (t.edit fun n => { n with clustering := true, status := .init }) :=
    quiet ⟨rfl, rfl, rfl, rfl⟩ rfl (fun _ => .inr h) (.refl _)
  refine (hc.trans (queueSend _ (.inr ?_))).trans
    (rearm _ .upkeep (Timer.fits_of_not_isDuty rfl) (.inl hs.backoff))
  omega

lemma formCluster (t : Turn) (h : 4 < b) : Pace b t t.formCluster :=
  ((disarm t .election).trans (decided _ rfl)).trans (queueSend _ (.inr h))

/-- A node that joins decides, and may transmit at once. -/
lemma join (t : Turn) (head : NodeId) (h : t.node.isUndecided) : Pace b t (t.join head) := by
  have hj : Pace (max 5 b) t (t.join head) := by
    refine ((((disarm t .election).trans (join_record _ head)).trans (setRegistry _ _)).trans
      (decided _ rfl)).trans (queueSend _ (.inr ?_))
    omega
  refine hj.of_decided h ?_
  show (Turn.queueSend _ _).node.isUndecided = false
  rw [Node.isUndecided, node_queueSend]
  rfl

lemma sendGreeting (t : Turn) (hs : t.node.settings.Steady) (h : 4 ≤ b) :
    Pace b t t.sendGreeting := by
  refine ((advanceSeq t).trans (broadcastPacket _ ?_)).trans
    (rearm _ .election (Timer.fits_of_not_isDuty rfl) (.inl hs.backoff))
  exact Nat.lt_of_le_of_lt (dataLevel_le _ _) h

lemma clusterFormed (t : Turn) {delay : Duration} (h : delay.Lasts) :
    Pace b t (t.clusterFormed delay) :=
  ((count t _).trans (decided _ rfl)).trans (queueSend _ (.inl h))

lemma sendCandidacy (t : Turn) (hs : t.node.settings.Steady) (h : 4 ≤ b) :
    Pace b t t.sendCandidacy := by
  refine (((lead t).trans (advanceSeq _)).trans (broadcastPacket _ ?_)).trans
    (clusterFormed _ hs.backoff)
  exact Nat.lt_of_le_of_lt (dataLevel_le _ _) h

lemma sendFormation (t : Turn) (hs : t.node.settings.Steady) (h : 4 ≤ b) :
    Pace b t t.sendFormation := by
  refine (((lead t).trans (advanceSeq _)).trans (broadcastPacket _ ?_)).trans
    (clusterFormed _ hs.interval)
  exact Nat.lt_of_le_of_lt (dataLevel_le _ _) h

lemma updateMessages (t : Turn) : Pace b t t.updateMessages.1 := by
  simp only [Turn.updateMessages]
  split
  · exact advanceSeq t
  · exact (advanceSeq t).trans (foldl_fst (fun acc _ => advanceSeq acc.1) _ (_, _))

lemma sendUpdate (t : Turn) (hs : t.node.settings.Steady) (h : 4 ≤ b) : Pace b t t.sendUpdate := by
  have hu : Pace b t t.updateMessages.1 := updateMessages t
  have hp (u : Turn) (p : Packet) : Pace b u (u.broadcastPacket p) :=
    broadcastPacket u (Nat.lt_of_le_of_lt (dataLevel_le _ _) h)
  refine (hu.trans (foldl hp _ _)).trans (queueSend _ (.inl ?_))
  exact (hu.alike.steady hs).interval

lemma transmit (t : Turn) (hs : t.node.settings.Steady) (h : 4 ≤ b) : Pace b t t.transmit := by
  simp only [Turn.transmit]
  split
  · exact sendGreeting t hs h
  · exact sendCandidacy t hs h
  · exact sendFormation t hs h
  · split
    · exact sendUpdate t hs h
    · exact refl t
  · exact refl t

lemma checkElection (t : Turn) (hs : t.node.settings.Steady) : Pace b t t.checkElection := by
  simp only [Turn.checkElection]
  split
  · exact refl t
  · rename_i hi
    split
    · exact (decided t rfl).trans (queueSend _ (.inl hs.slot))
    · split
      · refine (setStatus t fun _ => .inl ?_).trans (queueSend _ (.inl hs.backoff))
        rw [Node.isUndecided, Decidable.not_not.1 hi]
        rfl
      · exact queueSend _ (.inl hs.backoff)

lemma upkeep (t : Turn) (hs : t.node.settings.Steady) (h : 6 ≤ b) : Pace b t t.upkeep := by
  have ha (u : Turn) (hs : u.node.settings.Steady) (c : Upkeep) : Pace b u (u.afterUpkeep c) := by
    simp only [Turn.afterUpkeep]
    split
    · exact (decided u rfl).trans (queueSend _ (.inl hs.slot))
    · split
      · exact (setStatus u fun _ => .inr h).trans (queueSend _ (.inl hs.backoff))
      · exact refl u
  have hm (g : Registry) {r : Record} (h : r.id = t.node.record.id) :
      Pace b t ((t.setRegistry g).setRecord r) := (setRegistry t g).trans (setRecord _ h)
  simp only [Turn.upkeep]
  split
  · refine ((hm _ (Registry.id_maintain _ _ _ _)).trans (ha _ ?_ _)).trans
      (arm _ .upkeep (Timer.fits_of_not_isDuty rfl) (.inl hs.interval))
    exact hs
  · exact refl t

end Turn.Pace

end ClusterWave
