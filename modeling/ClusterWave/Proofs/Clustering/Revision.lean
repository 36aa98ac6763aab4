import ClusterWave.Proofs.Clustering.Neighborhood

/-!
# What becomes of the registry

A registry changes record by record, apart from rounds of upkeep. `Turn.Revises` lists all that may
become of it in a stride, and what brings that about.
-/

namespace ClusterWave

/-- What may become of the registry in a stride. -/
inductive Turn.Revises (v : Visit) (t : Turn) : Registry → Prop where
  | kept : Revises v t t.node.registry
  | heard {r : Record} (hr : v.Tells r) : Revises v t (t.node.registry.hear (r.stamp t.now))
  /-- Who is enrolled has just been heard. -/
  | enrolled {r : Record} (hn : t.node.registry.neighbors.get? r.id = some (r.stamp t.now))
      (hb : r.belongsTo t.node.id) : Revises v t (t.node.registry.enrol (r.stamp t.now))
  | noted {cluster : NodeId} {r : Record} (p : Provenance) (h : v.Reports t.node cluster r) :
      Revises v t (t.node.registry.noteCluster cluster (r.stamp t.now) p)
  | forgot (cluster : NodeId) : Revises v t (t.node.registry.forgetCluster cluster)
  | maintained (hv : v.call = .timer .upkeep) (hc : t.node.clustering) : Revises v t t.maintained.1

variable {v : Visit} {t t' : Turn}

lemma Turn.Revises.of_eq {g : Registry} (h : t.Revises v g) (he : t'.node.registry = g) :
    t.Revises v t'.node.registry := he ▸ h

namespace Turn

lemma Beside.registry (h : t.Beside t') : t'.node.registry = t.node.registry := by
  have hn : t'.node.registry.neighbors = t.node.registry.neighbors :=
    congrArg Stance.neighbors h.stance
  have hm : t'.node.registry.members = t.node.registry.members := congrArg Stance.members h.stance
  have hf : t'.node.registry.foreign = t.node.registry.foreign := congrArg Stance.foreign h.stance
  cases hg : t'.node.registry
  cases hg' : t.node.registry
  simp_all

lemma registry_transmit (t : Turn) : t.transmit.node.registry = t.node.registry := by
  have hcore {u : Turn} {r : Record} {s : Status} (h : u.node.core = (r, t.node.registry, s)) :
      u.node.registry = t.node.registry := congrArg (·.2.1) h
  simp only [transmit]
  split
  · exact hcore t.core_sendGreeting
  · exact hcore t.core_sendCandidacy
  · exact hcore t.core_sendFormation
  · split
    · simp only [sendUpdate]
      rw [node_queueSend]
      exact ((Beside.updateMessages t).trans (.packets _ _)).registry
    · rfl
  · rfl

lemma registry_checkElection (t : Turn) : t.checkElection.node.registry = t.node.registry := by
  have hq (u : Turn) (d : Duration) : (u.queueSend d).node.registry = u.node.registry :=
    congrArg (·.2.1) (core_queueSend u d)
  simp only [checkElection]
  split
  · rfl
  · split
    · exact hq _ _
    · split <;> exact hq _ _

/-- A round of upkeep takes place only as long as clusters are being formed. -/
lemma registry_upkeep (t : Turn) : t.upkeep.node.registry =
    if t.node.clustering then t.maintained.1 else t.node.registry := by
  split
  · rename_i hc
    exact congrArg (·.2.1) (core_upkeep hc)
  · rename_i hc
    rw [upkeep_of_idle (Bool.eq_false_iff.2 hc)]

end Turn

/-- Nothing else becomes of the registry. -/
lemma Stride.revises (s : Stride v t t') : t.Revises v t'.node.registry := by
  cases s with
  | beside hb => exact .of_eq .kept hb.registry
  | beginClustering => exact .of_eq .kept (congrArg (·.2.1) t.core_beginClustering)
  | endClustering =>
    obtain ⟨u, hu, hb⟩ := t.exists_beside_endClustering
    have hr : u.node.registry = t.node.registry := by rw [hu]
    exact .of_eq .kept (hb.registry.trans hr)
  | formCluster => exact .of_eq .kept (congrArg (·.2.1) t.core_formCluster)
  | transmit => exact .of_eq .kept (t.setSlot .send none).registry_transmit
  | checkElection => exact .of_eq .kept (t.setSlot .election none).registry_checkElection
  | upkeep hv =>
    have hr := (t.setSlot .upkeep none).registry_upkeep
    split at hr
    · rename_i hc
      exact .of_eq (.maintained hv hc) hr
    · exact .of_eq .kept hr
  | hear hr => exact .heard hr
  | enrol hm hn hh hb => exact .enrolled hn hb
  | note p h => exact .noted p h
  | join => exact .of_eq (.forgot _) (congrArg (·.2.1) (t.core_join _))
  | settle =>
    refine .of_eq .kept ?_
    simp only [Turn.settle]
    split
    · rfl
    · exact congrArg (·.2.1) (Turn.core_queueSend _ _)
  | merge =>
    simp only [Turn.merge]
    split
    · exact .kept
    · split
      · exact .forgot _
      · exact .kept

end ClusterWave
