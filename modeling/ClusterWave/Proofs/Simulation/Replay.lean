import ClusterWave.Proofs.Network.Causality
import ClusterWave.Proofs.Node.Books
import ClusterWave.Proofs.Simulation.Role
import ClusterWave.Proofs.Simulation.Timeline

/-!
# The timeline replays every node

What is known of a node from outside is its status, its role and three of its counters. All of it
can be read off the timeline of the simulation: start with what is known of a new node and go
through the timeline. At every moment the result is the node itself.
-/

namespace ClusterWave

/-- What is known of a node. -/
structure Standing where
  status : Status
  role : Degree × Option NodeId
  roleChanges : Nat
  activations : Nat
  packetsReceived : Nat
deriving DecidableEq

def Node.standing (n : Node) : Standing :=
  { status := n.status
    role := n.record.role
    roleChanges := n.counters.roleChanges
    activations := n.counters.activations
    packetsReceived := n.counters.packetsReceived }

namespace Standing

/-- What is known of a node before it is there. -/
def new : Standing := ⟨.init, (.standalone, none), 0, 0, 0⟩

/-- Take an occurrence into what is known of the node `id`. A change of status from another status
than the known one does not fit. -/
def note? (id : NodeId) (st : Standing) : Occurrence → Option Standing
  | .statusChanged node before after _ =>
    if node = id then if before = st.status then some { st with status := after } else none
    else some st
  | .roleChanged node degree cluster _ =>
    if node = id then
      some { st with role := (degree, cluster), roleChanges := st.roleChanges + 1 }
    else some st
  | .delivered _ receiver _ _ =>
    if receiver = id then some { st with packetsReceived := st.packetsReceived + 1 } else some st
  | .activated node _ _ =>
    if node = id then some { st with activations := st.activations + 1 } else some st
  | .dropped _ _ _ _ _ => some st
  | .departed _ _ => some st

/-- Go through some occurrences. -/
def replay? (id : NodeId) (st : Standing) (os : List Occurrence) : Option Standing :=
  os.foldlM (note? id) st

variable {id : NodeId} {st st' st'' : Standing} {os os' : List Occurrence}

@[simp] lemma replay?_nil : replay? id st [] = some st := rfl

@[simp] lemma replay?_cons {o : Occurrence} :
    replay? id st (o :: os) = (st.note? id o).bind fun st' => replay? id st' os := by
  simp only [replay?, List.foldlM_cons]
  rfl

lemma replay?_append (h : replay? id st os = some st') (h' : replay? id st' os' = some st'') :
    replay? id st (os ++ os') = some st'' := by
  rw [replay?] at h h' ⊢
  rw [List.foldlM_append, h]
  exact h'

lemma replay?_drops (h : ∀ o ∈ os, o.isDrop) : replay? id st os = some st := by
  induction os with
  | nil => rfl
  | cons o os ih =>
    obtain ⟨ho, hos⟩ := List.forall_mem_cons.1 h
    have hn : st.note? id o = some st := by
      cases o with
      | dropped => rfl
      | _ => cases ho
    rw [replay?_cons, hn]
    exact ih hos

end Standing

open Standing

lemma Node.IsNew.standing {n : Node} (h : n.IsNew) : n.standing = .new := by
  obtain ⟨id, settings, isStarter, velocity, h⟩ := h
  simp only [Node.create] at h
  split at h
  · cases h
  · cases h
    rfl

/-! ### Changes of a node -/

/-- Changes of one node say nothing about another one. -/
lemma replay?_changes_of_ne {id id' : NodeId} (hne : id ≠ id') (st : Standing) (position : Vec3)
    (now : Timestamp) (before after : Node) :
    replay? id' st (changes id position now before after) = some st := by
  simp only [changes]
  split <;> split <;> split <;> simp [note?, hne]

/-- A node activates once in a visit, or not at all. -/
lemma Node.activations_visit_or (n : Node) (v : Visit) :
    (n.visit v).node.counters.activations = n.counters.activations ∨
      (n.visit v).node.counters.activations = n.counters.activations + 1 := by
  by_cases hv : v.call = .timer .activate
  · have hrole (t : Turn) (before : Degree × Option NodeId) :
        (t.noteRole before).node.counters.activations = t.node.counters.activations := by
      simp only [Turn.noteRole]
      split <;> rfl
    rw [n.visit_activate hv, hrole, Turn.activations_activate]
    exact .inr rfl
  · exact .inl (n.activations_visit hv)

/-- What is taken down of a visit makes up what the visit has changed, the packet that it brings
apart. -/
lemma replay?_changes (id : NodeId) (n : Node) (v : Visit) (position : Vec3) (now : Timestamp) :
    replay? id { n.standing with packetsReceived := (n.visit v).node.counters.packetsReceived }
      (changes id position now n (n.visit v).node) = some (n.visit v).node.standing := by
  let after := (n.visit v).node
  let st : Standing := { n.standing with packetsReceived := after.counters.packetsReceived }
  have hstatus : replay? id st (if n.status = after.status then []
      else [.statusChanged id n.status after.status now]) =
        some { st with status := after.status } := by
    split
    · rename_i h
      rw [← h]
      rfl
    · simp [note?, st, Node.standing]
  have hrole : replay? id { st with status := after.status }
      (if n.record.role = after.record.role then []
        else [.roleChanged id after.record.degree after.record.cluster now]) =
        some { after.standing with activations := n.counters.activations } := by
    have hbooks : after.counters.roleChanges =
        n.counters.roleChanges + if after.record.role = n.record.role then 0 else 1 :=
      congrArg Prod.snd (n.books_visit v)
    split
    · rename_i h
      rw [if_pos h.symm] at hbooks
      simp [st, Node.standing, h, hbooks]
    · rename_i h
      rw [if_neg (Ne.symm h)] at hbooks
      simp [note?, st, Node.standing, Record.role, hbooks]
  have hactivations : replay? id { after.standing with activations := n.counters.activations }
      (if n.counters.activations < after.counters.activations then [.activated id position now]
        else []) = some after.standing := by
    rcases n.activations_visit_or v with h | h
    · rw [if_neg (Nat.not_lt.2 (Nat.le_of_eq h)), ← h]
      rfl
    · rw [if_pos (h ▸ Nat.lt_succ_self _)]
      simp [note?, Node.standing, after, h]
  exact replay?_append (replay?_append hstatus hrole) hactivations

/-! ### Simulations -/

namespace Directory

lemma contains_register? {d d' : Directory} {id : NodeId} {motion : Motion}
    (h : d.register? id motion = some d') :
    d.residents.contains id = false ∧ d'.residents = d.residents.insert id ⟨motion, false⟩ := by
  simp only [register?] at h
  split at h
  · cases h
  · rename_i hc
    cases h
    exact ⟨Bool.eq_false_iff.2 hc, rfl⟩

/-- A node that has left keeps its number. -/
lemma contains_depart (d : Directory) (id id' : NodeId) :
    (d.depart id).residents.contains id' = d.residents.contains id' := by
  simp only [depart]
  split
  · rfl
  · rename_i r hr
    by_cases he : id' = id
    · rw [he, Table.contains, Table.contains, Table.get?_insert_self, hr]
      rfl
    · rw [Table.contains, Table.get?_insert_of_ne _ _ he]
      rfl

lemma contains_of_resolve? {d : Directory} {id : NodeId} {now : Timestamp} {position : Vec3}
    (h : d.resolve? id now = some position) : d.residents.contains id := by
  simp only [resolve?] at h
  split at h
  · cases h
  · rename_i r hr
    rw [Table.contains, hr]
    rfl

end Directory

namespace Simulation

variable {s s' : Simulation} {id : NodeId} {due due' : Option NodeId}

/-- What is known of a node of a simulation, or of one that is to come. Of the node `due` it is
known that a packet has reached it, which it has not counted yet. -/
def standing (s : Simulation) (due : Option NodeId) (id : NodeId) : Standing :=
  match s.nodes.get? id with
  | none => .new
  | some n =>
    if due = some id then
      { n.standing with packetsReceived := n.counters.packetsReceived + 1 }
    else n.standing

/-- The timeline is in order, the directory lists the nodes, and the timeline replays them. -/
structure Replays (due : Option NodeId) (s : Simulation) : Prop where
  sorted : s.timeline.toList.Pairwise fun o o' => o.time ≤ o'.time
  past : ∀ o ∈ s.timeline.toList, o.time ≤ s.now
  registered : ∀ id, s.directory.residents.contains id = s.nodes.contains id
  replay : ∀ id, replay? id .new s.timeline.toList = some (s.standing due id)

namespace Replays

/-- The timeline goes on at the present time. -/
lemma grow (h : s.Replays due) (os : List Occurrence) (hnow : s'.now = s.now)
    (ht : s'.timeline.toList = s.timeline.toList ++ os) (hos : ∀ o ∈ os, o.time = s.now)
    (hreg : ∀ id, s'.directory.residents.contains id = s'.nodes.contains id)
    (hreplay : ∀ id, replay? id (s.standing due id) os = some (s'.standing due' id)) :
    s'.Replays due' := by
  constructor
  · rw [ht]
    refine List.pairwise_append.2 ⟨h.sorted, ?_, ?_⟩
    · refine List.pairwise_of_forall_mem_list fun o ho o' ho' => ?_
      rw [hos o ho, hos o' ho']
      exact Timestamp.le_refl _
    · intro o ho o' ho'
      rw [hos o' ho']
      exact h.past o ho
  · intro o ho
    rw [ht] at ho
    rw [hnow]
    rcases List.mem_append.1 ho with ho | ho
    · exact h.past o ho
    · rw [hos o ho]
      exact Timestamp.le_refl _
  · exact hreg
  · intro id
    rw [ht]
    exact replay?_append (h.replay id) (hreplay id)

/-- The agenda, the channel and the tally do not matter. -/
lemma of_eq (h : s.Replays due) (hnow : s'.now = s.now) (hnodes : s'.nodes = s.nodes)
    (hdir : s'.directory = s.directory) (ht : s'.timeline = s.timeline) : s'.Replays due := by
  refine h.grow [] hnow ?_ (List.forall_mem_nil _) ?_ ?_
  · rw [ht, List.append_nil]
  · rw [hnodes, hdir]
    exact h.registered
  · intro id
    rw [standing, standing, hnodes]
    rfl

/-- What is known of a node before a call is what it was, with the packet of the call counted. -/
lemma standing_of_call {n : Node} (hn : s.nodes.get? id = some n) (v : Visit) :
    s.standing (if v.call.isPacket then some id else none) id =
      { n.standing with packetsReceived := (n.visit v).node.counters.packetsReceived } := by
  have hbooks : (n.visit v).node.counters.packetsReceived = _ :=
    congrArg Prod.fst (n.books_visit v)
  rw [hbooks]
  simp only [standing, hn]
  cases v.call.isPacket with
  | true => simp
  | false => rfl

/-- A call makes good for the packet that it brings. -/
lemma call {c : Call} (h : s.Replays (if c.isPacket then some id else none)) {n : Node}
    {position : Vec3} (hp : s.directory.resolve? id s.now = some position)
    (hn : s.nodes.get? id = some n) : (s.call id c).Replays none := by
  have hcalled := called_of_resolve c hp hn
  obtain ⟨drops, ht, hdrops⟩ := timeline_call c hp hn
  generalize hv : (⟨s.now, position, s.agenda.nextHandle, c⟩ : Visit) = v at hcalled ht
  have hc : v.call = c := by rw [← hv]
  refine h.grow (changes id position s.now n (n.visit v).node ++ drops) hcalled.now ?_ ?_ ?_ ?_
  · rw [ht, List.append_assoc]
  · intro o ho
    rcases List.mem_append.1 ho with ho | ho
    · exact time_of_mem_changes ho
    · exact (hdrops o ho).2
  · intro id'
    rw [hcalled.directory, hcalled.nodes, h.registered id']
    by_cases he : id' = id
    · rw [he, Table.contains, Table.contains, Table.get?_insert_self, hn]
      rfl
    · rw [Table.contains, Table.contains, Table.get?_insert_of_ne _ _ he]
  · intro id'
    have hdrop (st : Standing) : replay? id' st drops = some st :=
      replay?_drops fun o ho => (hdrops o ho).1
    by_cases he : id' = id
    · subst he
      have hafter : (s.call id' c).standing none id' = (n.visit v).node.standing := by
        simp only [standing, hcalled.nodes, Table.get?_insert_self]
        rfl
      rw [← hc, standing_of_call hn, hc, hafter]
      exact replay?_append (replay?_changes id' n v position s.now) (hdrop _)
    · have hother : (s.call id c).standing none id' =
          s.standing (if c.isPacket then some id else none) id' := by
        simp only [standing, hcalled.nodes, Table.get?_insert_of_ne _ _ he]
        cases c.isPacket with
        | true => simp [Ne.symm he]
        | false => rfl
      rw [hother]
      exact replay?_append (replay?_changes_of_ne (Ne.symm he) _ _ _ _ _) (hdrop _)

/-- A call that does not bring a packet, to a node that may not be there. -/
lemma call_any (h : s.Replays none) (id : NodeId) {c : Call} (hc : c.isPacket = false) :
    (s.call id c).Replays none := by
  cases hp : s.directory.resolve? id s.now with
  | none =>
    simp only [Simulation.call, hp]
    exact h
  | some position =>
    cases hn : s.nodes.get? id with
    | none =>
      simp only [Simulation.call, hp, hn]
      exact h
    | some n =>
      refine Replays.call ?_ hp hn
      rw [hc]
      exact h

/-- Drops say nothing about the nodes. -/
lemma drop (h : s.Replays none) (sender receiver : NodeId) (kinds : List MessageKind)
    (reason : DropReason) : (s.drop sender receiver kinds reason).Replays none := by
  refine h.grow [.dropped sender receiver kinds reason s.now] rfl (Timeline.toList_push _ _)
    ?_ h.registered fun id => rfl
  intro o ho
  rw [List.mem_singleton.1 ho]
  rfl

/-- A node that can be reached is there. -/
lemma exists_node (h : s.Replays due) {position : Vec3}
    (hp : s.directory.resolve? id s.now = some position) : ∃ n, s.nodes.get? id = some n := by
  have hreg := Directory.contains_of_resolve? hp
  rw [h.registered] at hreg
  exact Option.isSome_iff_exists.1 hreg

lemma deliver (h : s.Replays none) (receiver sender : NodeId) (data : List UInt8) :
    (s.deliver receiver sender data).Replays none := by
  simp only [Simulation.deliver]
  split
  · exact h.of_eq rfl rfl rfl rfl
  · rename_i packet _
    split
    · rename_i hactive
      obtain ⟨position, hp⟩ := Option.isSome_iff_exists.1 hactive
      obtain ⟨n, hn⟩ := h.exists_node hp
      refine Replays.call (n := n) ?_ hp hn
      refine h.grow [.delivered sender receiver packet.kinds s.now] rfl
        (Timeline.toList_push _ _) ?_ h.registered ?_
      · intro o ho
        rw [List.mem_singleton.1 ho]
        rfl
      · intro id
        by_cases he : receiver = id
        · subst he
          simp [standing, count, record, hn, note?, Call.isPacket, Node.standing]
        · simp [standing, count, record, note?, Call.isPacket, he]
    · exact h.drop _ _ _ _

lemma process (h : s.Replays none) (e : Event) : (s.process e).Replays none := by
  cases e with
  | timer node handle timer => exact h.call_any node rfl
  | delivery receiver sender data => exact h.deliver receiver sender data
  | departure node =>
    refine h.grow [.departed node s.now] rfl (Timeline.toList_push _ _) ?_ ?_ fun id => rfl
    · intro o ho
      rw [List.mem_singleton.1 ho]
      rfl
    · intro id
      exact (Directory.contains_depart _ _ _).trans (h.registered id)

lemma advance (h : s.Replays due) (time : Timestamp) : (s.advance time).Replays due := by
  have hle := (s.le_now_advance time).1
  simp only [Simulation.advance] at hle ⊢
  split
  · rename_i hlt
    rw [if_pos hlt] at hle
    exact ⟨h.sorted, fun o ho => Timestamp.le_trans (h.past o ho) hle, h.registered, h.replay⟩
  · exact h

lemma step (h : s.Replays none) (limit : Timestamp) : (s.step limit).1.Replays none := by
  have hagenda (g : Agenda) : Replays none { s with agenda := g } := h.of_eq rfl rfl rfl rfl
  simp only [Simulation.step]
  split
  · exact hagenda _
  · rename_i a _
    exact (((hagenda _).advance a.time).process a.event).of_eq rfl rfl rfl rfl

/-- A new node is what is known of one that is to come. -/
lemma addNode {settings : Settings} {isStarter : Bool} {velocity : Option Vec2} {motion : Motion}
    (h : s.Replays none) (hs : s.addNode id settings isStarter velocity motion = .ok s') :
    s'.Replays none := by
  obtain ⟨node, directory, hnode, hreg, rfl⟩ := exists_of_addNode hs
  obtain ⟨hfree, hres⟩ := Directory.contains_register? hreg
  have hnone : s.nodes.get? id = none := by
    rw [h.registered] at hfree
    exact Option.not_isSome_iff_eq_none.1 (Bool.eq_false_iff.1 hfree)
  refine Replays.call_any ?_ id rfl
  refine h.grow [] rfl (List.append_nil _).symm (List.forall_mem_nil _) ?_ ?_
  · intro id'
    show directory.residents.contains id' = (s.nodes.insert id node).contains id'
    rw [hres]
    by_cases he : id' = id
    · rw [he, Table.contains, Table.contains, Table.get?_insert_self, Table.get?_insert_self]
      rfl
    · have := h.registered id'
      rw [Table.contains, Table.contains] at this ⊢
      rw [Table.get?_insert_of_ne _ _ he, Table.get?_insert_of_ne _ _ he, this]
  · intro id'
    by_cases he : id' = id
    · have hnew : node.standing = .new := Node.IsNew.standing ⟨_, _, _, _, hnode⟩
      subst he
      simp [standing, join, hnone, Table.get?_insert_self, hnew]
    · simp [standing, join, Table.get?_insert_of_ne _ _ he]

end Replays

/-- Every simulation has a timeline that replays its nodes. -/
lemma Reached.replays (hs : s.Reached) : s.Replays none := by
  induction hs with
  | create h =>
    obtain ⟨channel, rfl⟩ := exists_of_create h
    exact ⟨.nil, List.forall_mem_nil _, fun _ => rfl, fun _ => rfl⟩
  | addNode _ h ih => exact ih.addNode h
  | addDropRule r _ ih => exact ih.of_eq rfl rfl rfl rfl
  | scheduleDeparture id time _ ih => exact ih.of_eq rfl rfl rfl rfl
  | runUntil _ h ih =>
    exact runUntil?_induct (fun _ limit hs => hs.step limit) (fun _ limit hs => hs.advance limit)
      ih h

end Simulation

/-! ### Reading the timeline -/

namespace Occurrence

/-- A change of status of a node: the status before it and the one after it. -/
def statusChange? (id : NodeId) : Occurrence → Option (Status × Status)
  | .statusChanged node before after _ => if node = id then some (before, after) else none
  | _ => none

/-- The role that a node has taken. -/
def role? (id : NodeId) : Occurrence → Option (Degree × Option NodeId)
  | .roleChanged node degree cluster _ => if node = id then some (degree, cluster) else none
  | _ => none

def isActivationOf (id : NodeId) : Occurrence → Bool
  | .activated node _ _ => node = id
  | _ => false

def isDeliveryTo (id : NodeId) : Occurrence → Bool
  | .delivered _ receiver _ _ => receiver = id
  | _ => false

end Occurrence

namespace Timeline

/-- The changes of status of a node. -/
def statusChanges (t : Timeline) (id : NodeId) : List (Status × Status) :=
  t.toList.filterMap (Occurrence.statusChange? id)

/-- The roles that a node has taken. -/
def roles (t : Timeline) (id : NodeId) : List (Degree × Option NodeId) :=
  t.toList.filterMap (Occurrence.role? id)

/-- How often a node has activated. -/
def activationCount (t : Timeline) (id : NodeId) : Nat :=
  t.toList.countP (Occurrence.isActivationOf id)

/-- How many packets have reached a node. -/
def deliveryCount (t : Timeline) (id : NodeId) : Nat :=
  t.toList.countP (Occurrence.isDeliveryTo id)

end Timeline

/-- Whether changes of status lead from one status to another: each of them begins with the status
with which the one before it has ended. -/
def Status.Chain : Status → List (Status × Status) → Status → Prop
  | first, [], last => first = last
  | first, (before, after) :: rest, last => before = first ∧ Chain after rest last

/-- What has been made of a node by some occurrences. -/
structure Standing.Follows (id : NodeId) (os : List Occurrence) (st st' : Standing) : Prop where
  status : Status.Chain st.status (os.filterMap (Occurrence.statusChange? id)) st'.status
  role : (os.filterMap (Occurrence.role? id)).getLastD st.role = st'.role
  roleChanges : st'.roleChanges = st.roleChanges + (os.filterMap (Occurrence.role? id)).length
  activations : st'.activations = st.activations + os.countP (Occurrence.isActivationOf id)
  packetsReceived :
    st'.packetsReceived = st.packetsReceived + os.countP (Occurrence.isDeliveryTo id)

namespace Standing

variable {id : NodeId} {st st' : Standing} {os : List Occurrence} {o : Occurrence}

/-- An occurrence that is not about the node makes no difference. -/
lemma Follows.skip (h : Follows id os st st') (hs : o.statusChange? id = none)
    (hr : o.role? id = none) (ha : o.isActivationOf id = false) (hd : o.isDeliveryTo id = false) :
    Follows id (o :: os) st st' := by
  constructor
  · rw [List.filterMap_cons_none hs]
    exact h.status
  · rw [List.filterMap_cons_none hr]
    exact h.role
  · rw [List.filterMap_cons_none hr]
    exact h.roleChanges
  · rw [List.countP_cons_of_neg (by simp [ha])]
    exact h.activations
  · rw [List.countP_cons_of_neg (by simp [hd])]
    exact h.packetsReceived

lemma Follows.cons {st₁ : Standing} (hn : st.note? id o = some st₁) (h : Follows id os st₁ st') :
    Follows id (o :: os) st st' := by
  obtain ⟨hs, hr, hc, ha, hd⟩ := h
  cases o with
  | statusChanged node before after time =>
    by_cases hid : node = id
    · by_cases hb : before = st.status
      · simp only [note?, if_pos hid, if_pos hb, Option.some.injEq] at hn
        subst hn
        exact ⟨by simpa [Occurrence.statusChange?, hid, Status.Chain, hb] using hs, hr, hc, ha, hd⟩
      · simp [note?, hid, hb] at hn
    · simp only [note?, if_neg hid, Option.some.injEq] at hn
      subst hn
      exact .skip ⟨hs, hr, hc, ha, hd⟩ (by simp [Occurrence.statusChange?, hid]) rfl rfl rfl
  | roleChanged node degree cluster time =>
    by_cases hid : node = id
    · simp only [note?, if_pos hid, Option.some.injEq] at hn
      subst hn
      have hrole : Occurrence.role? id (.roleChanged node degree cluster time) =
          some (degree, cluster) := if_pos hid
      refine ⟨hs, ?_, ?_, ha, hd⟩
      · rw [List.filterMap_cons_some hrole, List.getLastD_cons]
        exact hr
      · rw [List.filterMap_cons_some hrole, List.length_cons]
        simp only at hc
        omega
    · simp only [note?, if_neg hid, Option.some.injEq] at hn
      subst hn
      exact .skip ⟨hs, hr, hc, ha, hd⟩ rfl (by simp [Occurrence.role?, hid]) rfl rfl
  | delivered sender receiver kinds time =>
    by_cases hid : receiver = id
    · simp only [note?, if_pos hid, Option.some.injEq] at hn
      subst hn
      refine ⟨hs, hr, hc, ha, ?_⟩
      rw [List.countP_cons_of_pos (by simp [Occurrence.isDeliveryTo, hid])]
      simp only at hd
      omega
    · simp only [note?, if_neg hid, Option.some.injEq] at hn
      subst hn
      exact .skip ⟨hs, hr, hc, ha, hd⟩ rfl rfl rfl (by simp [Occurrence.isDeliveryTo, hid])
  | activated node position time =>
    by_cases hid : node = id
    · simp only [note?, if_pos hid, Option.some.injEq] at hn
      subst hn
      refine ⟨hs, hr, hc, ?_, hd⟩
      rw [List.countP_cons_of_pos (by simp [Occurrence.isActivationOf, hid])]
      simp only at ha
      omega
    · simp only [note?, if_neg hid, Option.some.injEq] at hn
      subst hn
      exact .skip ⟨hs, hr, hc, ha, hd⟩ rfl rfl (by simp [Occurrence.isActivationOf, hid]) rfl
  | dropped sender receiver kinds reason time =>
    cases hn
    exact .skip ⟨hs, hr, hc, ha, hd⟩ rfl rfl rfl rfl
  | departed node time =>
    cases hn
    exact .skip ⟨hs, hr, hc, ha, hd⟩ rfl rfl rfl rfl

/-- What the timeline makes of a node can be read off its occurrences kind by kind. -/
lemma follows_of_replay? (h : replay? id st os = some st') : Follows id os st st' := by
  induction os generalizing st with
  | nil =>
    cases h
    exact ⟨rfl, rfl, rfl, rfl, rfl⟩
  | cons o os ih =>
    rw [replay?_cons, Option.bind_eq_some_iff] at h
    obtain ⟨st₁, hn, h⟩ := h
    exact (ih h).cons hn

end Standing

namespace Simulation

variable {s : Simulation}

/-- The timeline replays every node. Whatever has been done with a simulation, its timeline is in
order of time, and for every node: its changes of status lead from the status of a new node to the
one that it has, each beginning where the one before it has ended; the last role on the timeline, or
that of a new node, is its role; and it counts as many changes of role, activations and packets as
there are on the timeline. -/
theorem timeline_replays_nodes (hs : s.Reached) :
    s.timeline.toList.Pairwise (fun o o' => o.time ≤ o'.time) ∧
      ∀ id n, s.nodes.get? id = some n →
        Status.Chain .init (s.timeline.statusChanges id) n.status ∧
        (s.timeline.roles id).getLastD (.standalone, none) =
          (n.record.degree, n.record.cluster) ∧
        (s.timeline.roles id).length = n.counters.roleChanges ∧
        s.timeline.activationCount id = n.counters.activations ∧
        s.timeline.deliveryCount id = n.counters.packetsReceived := by
  have hreplays := hs.replays
  refine ⟨hreplays.sorted, fun id n hn => ?_⟩
  have hstanding : s.standing none id = n.standing := by
    simp only [standing, hn]
    rfl
  have hreplay := hreplays.replay id
  rw [hstanding] at hreplay
  obtain ⟨hstatus, hrole, hchanges, hact, hpackets⟩ := follows_of_replay? hreplay
  refine ⟨hstatus, hrole, ?_, ?_, ?_⟩
  · exact (hchanges.trans (Nat.zero_add _)).symm
  · exact (hact.trans (Nat.zero_add _)).symm
  · exact (hpackets.trans (Nat.zero_add _)).symm

/-- In a pair of nodes that is run for three seconds the second node comes to lead. -/
theorem pair_replayed : ∃ (s : Simulation) (n : Node), s.Reached ∧ s.nodes.get? ⟨2⟩ = some n ∧
    n.record.degree = .head ∧ 0 < n.counters.packetsReceived ∧
      Status.Chain .init (s.timeline.statusChanges ⟨2⟩) n.status ∧
      (s.timeline.roles ⟨2⟩).getLastD (.standalone, none) =
        (n.record.degree, n.record.cluster) ∧
      (s.timeline.roles ⟨2⟩).length = n.counters.roleChanges ∧
      s.timeline.activationCount ⟨2⟩ = n.counters.activations ∧
      s.timeline.deliveryCount ⟨2⟩ = n.counters.packetsReceived := by
  have h : (pair?.any fun s => (s.nodes.get? ⟨2⟩).any fun n =>
      n.record.degree = .head ∧ 0 < n.counters.packetsReceived) = true := by decide +kernel
  simp only [Option.any_eq_true, decide_eq_true_eq] at h
  obtain ⟨s, hs, n, hn, hhead, hpackets⟩ := h
  have hreached := reached_pair hs
  exact ⟨s, n, hreached, hn, hhead, hpackets, (timeline_replays_nodes hreached).2 ⟨2⟩ n hn⟩

end Simulation

end ClusterWave
