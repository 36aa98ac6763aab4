import ClusterWave.Proofs.Bench.Course
import ClusterWave.Proofs.Bench.Expect
import ClusterWave.Proofs.Clustering.Revision
import ClusterWave.Proofs.Peer.Upkeep

/-!
# Registries stay fresh

A round of upkeep drops what has timed out, and the next round is due an interval later. What is put
into the registry in the meantime has just arrived. So as long as rounds take place, nothing in the
registry gets older than the timeout and an interval together.
-/

namespace ClusterWave

/-! ### Registries -/

/-- Neighbors are kept under their own numbers. -/
def Registry.Keyed (g : Registry) : Prop := ∀ id r, g.neighbors.get? id = some r → r.id = id

/-- Neither a neighbor nor a foreign cluster was too old at a given time. -/
structure Registry.Fresh (g : Registry) (time : Timestamp) (timeout : Duration) : Prop where
  neighbors : ∀ id r, g.neighbors.get? id = some r → ¬ Registry.isStale time timeout r
  foreign : ∀ cluster r, g.foreign.get? cluster = some r → ¬ Registry.isStale time timeout r

namespace Registry

variable {g : Registry} {r r' own : Record} {time now : Timestamp} {timeout : Duration}

/-- What was received later is not older. -/
lemma isStale_of_le (h : isStale time timeout r) (hle : r'.timestamp ≤ r.timestamp) :
    isStale time timeout r' := by
  have hlt : timeout.nanos < (time.since r.timestamp).nanos := of_decide_eq_true h
  have hle : r'.timestamp.micros.toNat ≤ r.timestamp.micros.toNat := hle
  have hage := Timestamp.nanos_since time r.timestamp
  have hage' := Timestamp.nanos_since time r'.timestamp
  have hlt' : timeout.nanos < (time.since r'.timestamp).nanos := by omega
  exact decide_eq_true (p := timeout < time.since r'.timestamp) hlt'

lemma not_isStale_stamp (h : time ≤ now) (r : Record) : ¬ isStale time timeout (r.stamp now) := by
  intro hs
  exact Timestamp.not_lt.2 h (lt_of_isStale hs)

namespace Keyed

lemma hear (h : g.Keyed) (r : Record) : (g.hear r).Keyed := by
  intro id r' hr'
  rcases Table.of_get?_insert hr' with ⟨rfl, rfl⟩ | ⟨-, hr'⟩
  · rfl
  · exact h id r' hr'

lemma maintain (h : g.Keyed) (own : Record) (now : Timestamp) (timeout : Duration) :
    (g.maintain own now timeout).1.Keyed := fun id r hr => h id r (get?_of_maintain hr)

end Keyed

namespace Fresh

lemma hear (h : g.Fresh time timeout) (hr : ¬ isStale time timeout r) :
    (g.hear r).Fresh time timeout := by
  refine ⟨?_, h.foreign⟩
  intro id r' hr'
  rcases Table.of_get?_insert hr' with ⟨rfl, rfl⟩ | ⟨-, hr'⟩
  · exact hr
  · exact h.neighbors id r' hr'

/-- Hearsay about a known cluster renews it. -/
lemma noteCluster (h : g.Fresh time timeout) (hr : ¬ isStale time timeout r) (cluster : NodeId)
    (p : Provenance) : (g.noteCluster cluster r p).Fresh time timeout := by
  refine ⟨(neighbors_noteCluster g cluster r p).symm ▸ h.neighbors, ?_⟩
  intro c s hs
  by_cases hc : c = cluster
  · subst hc
    cases hknown : g.foreign.get? c with
    | none =>
      rw [get?_noteCluster_of_unknown hknown] at hs
      cases hs
      exact hr
    | some known =>
      cases p with
      | authoritative =>
        rw [get?_noteCluster_authoritative] at hs
        cases hs
        exact hr
      | hearsay =>
        rw [get?_noteCluster_hearsay hknown] at hs
        cases hs
        intro hst
        exact h.foreign c known hknown (isStale_of_le hst (Timestamp.le_later _ _))
  · rw [get?_noteCluster_of_ne hc] at hs
    exact h.foreign c s hs

lemma forgetCluster (h : g.Fresh time timeout) (cluster : NodeId) :
    (g.forgetCluster cluster).Fresh time timeout := by
  refine ⟨h.neighbors, ?_⟩
  intro c r hr
  exact h.foreign c r (Table.of_get?_erase hr)

/-- A round of upkeep leaves nothing behind that is too old by then. -/
lemma maintain (h : g.Keyed) (own : Record) (now : Timestamp) (timeout : Duration) :
    (g.maintain own now timeout).1.Fresh now timeout where
  neighbors _ _ hr := not_isStale_iff.2 ((get?_maintain_iff h).1 hr).2
  foreign _ _ hr := not_isStale_iff.2 (foreign_maintain_iff.1 hr).2

end Fresh

end Registry

/-! ### Strides -/

variable {n : Node} {v : Visit} {t t' : Turn} {time : Timestamp} {timeout : Duration}

lemma Stride.keyed (s : Stride v t t') (h : t.node.registry.Keyed) : t'.node.registry.Keyed := by
  have hg := s.revises
  generalize t'.node.registry = g at hg ⊢
  cases hg with
  | kept | enrolled | forgot => exact h
  | heard => exact h.hear _
  | noted =>
    rw [Registry.Keyed, Registry.neighbors_noteCluster]
    exact h
  | maintained => exact h.maintain _ _ _

/-- What arrives with a visit is fresh. -/
lemma Stride.fresh (s : Stride v t t') (hv : v.call ≠ .timer .upkeep) (hle : time ≤ t.now)
    (h : t.node.registry.Fresh time timeout) : t'.node.registry.Fresh time timeout := by
  have hg := s.revises
  generalize t'.node.registry = g at hg ⊢
  cases hg with
  | kept => exact h
  | enrolled => exact ⟨h.neighbors, h.foreign⟩
  | heard => exact h.hear (Registry.not_isStale_stamp hle _)
  | noted => exact h.noteCluster (Registry.not_isStale_stamp hle _) _ _
  | forgot => exact h.forgetCluster _
  | maintained hc => exact absurd hc hv

/-- Whether upkeep goes on and with which timer. -/
def Node.watch (n : Node) : Bool × Option TimerHandle := (n.clustering, n.slots.upkeep)

namespace Turn

lemma watch_queueSend (t : Turn) (d : Duration) : (t.queueSend d).node.watch = t.node.watch := by
  rw [node_queueSend]
  rfl

lemma watch_disarm_election (t : Turn) : (t.disarm .election).node.watch = t.node.watch := by
  rw [node_disarm]
  rfl

lemma watch_join (t : Turn) (head : NodeId) : (t.join head).node.watch = t.node.watch := by
  simp only [join]
  exact (watch_queueSend _ _).trans (watch_disarm_election t)

lemma watch_transmit (t : Turn) : t.transmit.node.watch = t.node.watch := by
  simp only [transmit]
  split
  · exact watch_disarm_election (t.advanceSeq.broadcast _)
  · exact watch_queueSend _ _
  · exact watch_queueSend _ _
  · split
    · simp only [sendUpdate]
      have hb := (Beside.updateMessages t).trans
        (.packets _ (Packet.batch t.updateMessages.1.node.settings.packetLimit.toNat
          t.updateMessages.2))
      exact (watch_queueSend _ _).trans
        (congrArg (fun s : Stance => (s.clustering, s.upkeep)) hb.stance)
    · rfl
  · rfl

lemma watch_checkElection (t : Turn) : t.checkElection.node.watch = t.node.watch := by
  simp only [checkElection]
  split
  · rfl
  · split
    · exact watch_queueSend (t.setStatus .update) _
    · split
      · exact watch_queueSend (t.setStatus .headElection) _
      · exact watch_queueSend _ _

end Turn

/-- Upkeep is left alone unless clustering begins or ends or a round of it takes place. -/
lemma Stride.watch (s : Stride v t t') (hs : v.call ≠ .timer .start) (he : v.call ≠ .timer .stop)
    (hu : v.call ≠ .timer .upkeep) : t'.node.watch = t.node.watch := by
  cases s with
  | beside hb => exact congrArg (fun s : Stance => (s.clustering, s.upkeep)) hb.stance
  | beginClustering hc => exact absurd hc hs
  | endClustering hc => exact absurd hc he
  | formCluster => exact (Turn.watch_queueSend _ _).trans t.watch_disarm_election
  | transmit => exact (t.setSlot .send none).watch_transmit
  | checkElection => exact (t.setSlot .election none).watch_checkElection
  | upkeep hc => exact absurd hc hu
  | hear | enrol | note => rfl
  | join => exact t.watch_join _
  | settle =>
    simp only [Turn.settle]
    split
    · rfl
    · exact Turn.watch_queueSend _ _
  | merge =>
    simp only [Turn.merge]
    split
    · rfl
    · split <;> rfl

/-! ### Visits -/

namespace Node

lemma keyed_visit (h : n.registry.Keyed) (v : Visit) : (n.visit v).node.registry.Keyed :=
  (strides_visit n v).induct (P := fun t => t.node.registry.Keyed) h fun _ _ h s => s.keyed h

lemma fresh_visit (h : n.registry.Fresh time timeout) (hv : v.call ≠ .timer .upkeep)
    (hle : time ≤ v.now) : (n.visit v).node.registry.Fresh time timeout := by
  refine ((strides_visit n v).induct (P := fun t => t.now = v.now ∧
    t.node.registry.Fresh time timeout) ⟨rfl, h⟩ ?_).2
  rintro t t' ⟨hnow, h⟩ s
  exact ⟨s.now.trans hnow, s.fresh hv (hnow.symm ▸ hle) h⟩

lemma watch_visit (n : Node) (hs : v.call ≠ .timer .start) (he : v.call ≠ .timer .stop)
    (hu : v.call ≠ .timer .upkeep) : (n.visit v).node.watch = n.watch :=
  (strides_visit n v).induct (P := fun t => t.node.watch = n.watch) rfl
    fun _ _ h s => (s.watch hs he hu).trans h

/-- Clustering is over when its end comes. -/
lemma clustering_visit_stop (n : Node) (hv : v.call = .timer .stop) :
    (n.visit v).node.clustering = false := by
  have hb := (Turn.start n v.now v.position v.nextHandle).locate.beside_endClustering
  rw [n.visit_timer hv, Turn.node_noteRole]
  refine hb.clustering.trans ?_
  rw [Turn.node_unclustered]

lemma clustering_visit_upkeep (n : Node) (hv : v.call = .timer .upkeep)
    (hc : (n.visit v).node.clustering) : n.clustering := by
  cases hn : n.clustering with
  | true => rfl
  | false =>
    have hoff : ((Turn.start n v.now v.position v.nextHandle).locate.setSlot .upkeep
        none).node.clustering = false := hn
    rw [n.visit_timer hv, Turn.fire, Turn.upkeep_of_idle hoff, Turn.node_noteRole] at hc
    exact hn.symm.trans hc

/-- After a round of upkeep nothing is too old, and the timer for the next one is armed. -/
lemma fresh_visit_upkeep (hk : n.registry.Keyed) (hv : v.call = .timer .upkeep)
    (hc : n.clustering) :
    (n.visit v).node.registry.Fresh v.now n.settings.timeout ∧
      (n.visit v).Armed .upkeep n.settings.interval := by
  let t := (Turn.start n v.now v.position v.nextHandle).locate.setSlot .upkeep none
  have hclustering : t.node.clustering := hc
  rw [n.visit_timer hv]
  constructor
  · have hg := t.registry_upkeep
    rw [if_pos hclustering] at hg
    rw [Turn.node_noteRole]
    show t.upkeep.node.registry.Fresh _ _
    rw [hg]
    exact .maintain hk _ _ _
  · apply Turn.Armed.noteRole
    show t.upkeep.Armed _ _
    simp only [Turn.upkeep, hclustering, if_true]
    exact .of_arm _ _ _ _

end Node

/-! ### Benches -/

namespace Bench

variable {b b' b₀ : Bench} {vs : List Visit}

/-- What is known since the last round of upkeep: nothing was too old by then, and the next round is
due an interval later. -/
structure Upkept (b : Bench) (round : Timestamp) : Prop where
  past : round ≤ b.now
  due : b.Expects .upkeep (round + b.node.settings.interval)
  fresh : b.node.registry.Fresh round b.node.settings.timeout

namespace Upkept

lemma of_upkeep (hm : b.Matches) (hs : b.Serves v b') (hk : b.node.registry.Keyed)
    (hv : v.call = .timer .upkeep) (hc : b.node.clustering) : b'.Upkept v.now := by
  have hset : b'.node.settings = b.node.settings := by
    rw [hs.node]
    exact (moves_visit b.node v).alike.settings
  obtain ⟨hfresh, harmed⟩ := Node.fresh_visit_upkeep hk hv hc
  refine ⟨?_, ?_, ?_⟩
  · rw [hs.now]
    exact Timestamp.le_refl _
  · rw [hset]
    exact .armed hm hs harmed (Timestamp.le_refl _)
  · rw [hset, hs.node]
    exact hfresh

/-- Until the next round nothing changes in that. -/
lemma serves {round : Timestamp} (h : b.Upkept round) (hm : b.Matches) (hb : b.Serves v b')
    (hs : v.call ≠ .timer .start) (he : v.call ≠ .timer .stop) (hu : v.call ≠ .timer .upkeep) :
    b'.Upkept round := by
  have hset : b'.node.settings = b.node.settings := by
    rw [hb.node]
    exact (moves_visit b.node v).alike.settings
  have hle : round ≤ v.now := Timestamp.le_trans h.past hb.clock
  refine ⟨?_, ?_, ?_⟩
  · rw [hb.now]
    exact hle
  · rw [hset]
    refine h.due.kept hm hb ?_
    rw [hb.node]
    exact congrArg Prod.snd (b.node.watch_visit hs he hu)
  · rw [hset, hb.node]
    exact b.node.fresh_visit h.fresh hu hle

end Upkept

/-- In a course there is a last round of upkeep, once there has been one. -/
lemma Course.upkept (hn : b₀.node.IsNew) (ha : b₀.alarms = []) (h : b₀.Course vs b) :
    b.Matches ∧ b.node.registry.Keyed ∧
      (calledSince (.timer .upkeep) (.timer .start) vs → b.node.clustering →
        ∃ round, b.Upkept round) := by
  induction h with
  | nil =>
    refine ⟨.of_isNew hn ha, ?_, ?_⟩
    · rw [hn.registry]
      intro id r hr
      cases hr
    · intro _ hc
      rw [hn.waiting.2.1] at hc
      cases hc
  | @snoc vs v b b' _ hs ih =>
    obtain ⟨hm, hk, hup⟩ := ih
    refine ⟨hm.serves hs, ?_, ?_⟩
    · rw [hs.node]
      exact b.node.keyed_visit hk v
    · intro hsince hc
      rw [hs.node] at hc
      by_cases hu : v.call = .timer .upkeep
      · exact ⟨v.now, .of_upkeep hm hs hk hu (b.node.clustering_visit_upkeep hu hc)⟩
      · obtain ⟨hstart, hold⟩ := (calledSince_snoc hsince).resolve_left hu
        have hstop : v.call ≠ .timer .stop := by
          intro hv
          rw [b.node.clustering_visit_stop hv] at hc
          cases hc
        have hwatch := b.node.watch_visit hstart hstop hu
        obtain ⟨round, h⟩ := hup hold ((congrArg Prod.fst hwatch).symm.trans hc)
        exact ⟨round, h.serves hm hs hstart hstop hu⟩

/-- At a bench that behaves well no timer is late. -/
lemma now_le_due (ha : b₀.alarms = []) (h : b₀.run? vs = some b) :
    ∀ a ∈ b.alarms, b.now ≤ a.due := by
  refine run?_induct (P := fun b => ∀ a ∈ b.alarms, b.now ≤ a.due) h ?_ ?_
  · rw [ha]
    exact List.forall_mem_nil _
  · intro v _ b b' _ hv a ha
    obtain ⟨as, hr, has⟩ := hv.alarms
    rw [has] at ha
    rw [hv.now]
    rcases Outbox.mem_of_mem_alarms ha with ha | ⟨delay, -, hdue⟩
    · exact hv.due a (hr.mem ha)
    · exact hdue ▸ Timestamp.le_add _ _

/-- The age of what was not too old in the last round, before the next one. -/
lemma age_le {t round : Timestamp} {r : Record} {timeout interval : Duration}
    (hle : t ≤ round + interval) (hs : ¬ Registry.isStale round timeout r) :
    (t.since r.timestamp).nanos ≤ timeout.nanos + interval.nanos := by
  have hage : (round.since r.timestamp).nanos ≤ timeout.nanos :=
    Nat.not_lt.1 fun hlt => hs (decide_eq_true (p := timeout < round.since r.timestamp) hlt)
  have hinterval := interval.toNat_micros_le
  rw [Timestamp.le_iff, Timestamp.toNat_add] at hle
  have hround := Timestamp.nanos_since round r.timestamp
  have ht := Timestamp.nanos_since t r.timestamp
  omega

/-- At a bench that behaves well, while clustering goes on and a round of upkeep has taken place
since it began, no neighbor and no foreign cluster is older than the timeout and an interval
together, which is three intervals at most. This holds at every time until the next timer is due,
and no timer is late. -/
theorem registry_stays_fresh (hn : b₀.node.IsNew) (ha : b₀.alarms = [])
    (h : b₀.run? vs = some b) (hu : calledSince (.timer .upkeep) (.timer .start) vs)
    (hc : b.node.clustering) :
    (∀ a ∈ b.alarms, b.now ≤ a.due) ∧
      ∀ t, b.now ≤ t → (∀ a ∈ b.alarms, t ≤ a.due) →
        ∀ r, (∃ id, b.node.registry.neighbors.get? id = some r) ∨
            (∃ cluster, b.node.registry.foreign.get? cluster = some r) →
          (t.since r.timestamp).nanos ≤
              b.node.settings.timeout.nanos + b.node.settings.interval.nanos ∧
            (t.since r.timestamp).nanos ≤ 3 * b.node.settings.interval.nanos := by
  refine ⟨now_le_due ha h, ?_⟩
  intro t _ hd r hr
  obtain ⟨-, -, hupkept⟩ := (Course.of_run? h).upkept hn ha
  obtain ⟨round, hround⟩ := hupkept hu hc
  have hs : ¬ Registry.isStale round b.node.settings.timeout r := by
    rcases hr with ⟨id, hr⟩ | ⟨cluster, hr⟩
    · exact hround.fresh.neighbors id r hr
    · exact hround.fresh.foreign cluster r hr
  have hage := age_le (hround.due.le hd) hs
  have htimeout : b.node.settings.timeout.nanos ≤ 2 * b.node.settings.interval.nanos := by
    rw [Settings.timeout, Duration.scale, Duration.nanos_ofNanos]
    exact Nat.min_le_left _ _
  exact ⟨hage, by omega⟩

/-- A head goes on with upkeep and has heard a member since. -/
theorem enrolled_neighbor_is_fresh : ∃ b₀ b : Bench, b₀.node.IsNew ∧ b₀.alarms = [] ∧
    b₀.run? enrollingVisits = some b ∧
    calledSince (.timer .upkeep) (.timer .start) enrollingVisits ∧ b.node.clustering ∧
    b.node.registry.neighbors.contains ⟨2⟩ ∧
    (∀ a ∈ b.alarms, b.now ≤ a.due) ∧
      ∀ t, b.now ≤ t → (∀ a ∈ b.alarms, t ≤ a.due) →
        ∀ r, (∃ id, b.node.registry.neighbors.get? id = some r) ∨
            (∃ cluster, b.node.registry.foreign.get? cluster = some r) →
          (t.since r.timestamp).nanos ≤
              b.node.settings.timeout.nanos + b.node.settings.interval.nanos ∧
            (t.since r.timestamp).nanos ≤ 3 * b.node.settings.interval.nanos := by
  have hrun : ((Node.create ⟨5⟩ Settings.standard false none).toOption.any fun n =>
      ((Bench.setUp n Vec3.zero).run? enrollingVisits).any fun b =>
        b.node.clustering && b.node.registry.neighbors.contains ⟨2⟩) = true := by decide +kernel
  simp only [Option.any_eq_true, Bool.and_eq_true] at hrun
  obtain ⟨n, hn, b, hb, hc, hm⟩ := hrun
  have hu : calledSince (.timer .upkeep) (.timer .start) enrollingVisits :=
    ⟨enrollingVisits.take 6, _, enrollingVisits.drop 7, rfl, rfl, by decide⟩
  exact ⟨.setUp n Vec3.zero, b, .of_toOption hn, rfl, hb, hu, hc, hm,
    registry_stays_fresh (.of_toOption hn) rfl hb hu hc⟩

end Bench

end ClusterWave
