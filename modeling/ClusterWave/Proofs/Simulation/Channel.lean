import ClusterWave.Simulation.Channel
import Mathlib.Algebra.Order.Ring.Nat
import Mathlib.Tactic.Lemma

/-!
# Drop rules of a channel

A rule drops the next packets between two nodes that carry its kind of message, as many as it says.
Several rules may apply to a packet. It is then the first one that loses a drop, and no other rule
changes; packets that are out of range do not concern the rules at all. So every drop is paid for by
one rule, and a rule that no other one interferes with drops what comes first.
-/

namespace ClusterWave

/-! ### Transmissions -/

/-- Packets with some kinds of messages are put on the channel for a receiver, which may be at a
distance. -/
structure Transmission where
  sender : NodeId
  receiver : NodeId
  kinds : List MessageKind
  distance : Option Binary64
deriving DecidableEq

namespace Channel

/-- The channel after a transmission. -/
def cross (c : Channel) (t : Transmission) : Channel :=
  (c.transmit t.sender t.receiver t.kinds t.distance).2

/-- What becomes of a transmission. -/
def verdict (c : Channel) (t : Transmission) : Verdict :=
  (c.transmit t.sender t.receiver t.kinds t.distance).1

/-- What becomes of transmissions, one after the other. -/
def verdicts : Channel → List Transmission → List Verdict
  | _, [] => []
  | c, t :: ts => c.verdict t :: verdicts (c.cross t) ts

end Channel

/-! ### Charging a rule -/

variable {t : Transmission} {ts : List Transmission} {r : DropRule} {rules rules' : List DropRule}
  {i : Nat}

namespace DropRule

/-- Whether a transmission is between the nodes of a rule and carries its kind of message. -/
def Concerns (r : DropRule) (t : Transmission) : Prop :=
  r.sender = t.sender ∧ r.receiver = t.receiver ∧ r.kind ∈ t.kinds

instance (r : DropRule) (t : Transmission) : Decidable (r.Concerns t) :=
  inferInstanceAs (Decidable (_ ∧ _ ∧ _))

/-- Whether a rule has drops left for a transmission. -/
def Covers (r : DropRule) (t : Transmission) : Prop := 0 < r.count ∧ r.Concerns t

lemma applies_iff : r.applies t.sender t.receiver t.kinds ↔ r.Covers t := by
  simp [applies, isPending, Covers, Concerns, and_assoc]

/-- A rule after a drop. -/
def charged (r : DropRule) : DropRule := { r with count := r.count - 1 }

lemma Covers.toNat_charged (h : r.Covers t) : r.charged.count.toNat + 1 = r.count.toNat := by
  have hpos : 0 < r.count.toNat := UInt32.lt_iff_toNat_lt.1 h.1
  have hle : (1 : UInt32) ≤ r.count := UInt32.le_iff_toNat_le.2 hpos
  rw [charged, UInt32.toNat_sub_of_le _ _ hle]
  exact Nat.sub_add_cancel hpos

/-- The first rule with drops left for a transmission loses one of them, and the others stay as they
are. -/
def Charges (t : Transmission) (rules rules' : List DropRule) : Prop :=
  ∃ i r, rules[i]? = some r ∧ r.Covers t ∧ (∀ j < i, ∀ s ∈ rules[j]?, ¬ s.Covers t) ∧
    r.charged.count.toNat + 1 = r.count.toNat ∧ rules' = rules.set i r.charged

lemma charge?_cons_of_covers (h : r.Covers t) (rules : List DropRule) :
    charge? t.sender t.receiver t.kinds (r :: rules) = some (r.charged :: rules) := by
  rw [charge?, if_pos (applies_iff.2 h)]
  rfl

lemma charge?_cons_of_not_covers (h : ¬ r.Covers t) (rules : List DropRule) :
    charge? t.sender t.receiver t.kinds (r :: rules) =
      (charge? t.sender t.receiver t.kinds rules).map (r :: ·) := by
  rw [charge?, if_neg (mt applies_iff.1 h)]

lemma charges_of_charge? (h : charge? t.sender t.receiver t.kinds rules = some rules') :
    Charges t rules rules' := by
  induction rules generalizing rules' with
  | nil => cases h
  | cons r rules ih =>
    by_cases hr : r.Covers t
    · rw [charge?_cons_of_covers hr] at h
      exact ⟨0, r, rfl, hr, fun j hj => absurd hj (Nat.not_lt_zero j), hr.toNat_charged,
        (Option.some.inj h).symm⟩
    · rw [charge?_cons_of_not_covers hr] at h
      obtain ⟨rest, hrest, rfl⟩ := Option.map_eq_some_iff.1 h
      obtain ⟨i, s, hi, hs, hfirst, hcount, rfl⟩ := ih hrest
      refine ⟨i + 1, s, hi, hs, fun j hj s' hs' => ?_, hcount, rfl⟩
      cases j with
      | zero => exact Option.some.inj hs' ▸ hr
      | succ j => exact hfirst j (Nat.lt_of_succ_lt_succ hj) s' hs'

lemma charge?_eq_none_iff :
    charge? t.sender t.receiver t.kinds rules = none ↔ ∀ r ∈ rules, ¬ r.Covers t := by
  induction rules with
  | nil => simp [charge?]
  | cons r rules ih =>
    by_cases hr : r.Covers t
    · rw [charge?_cons_of_covers hr]
      simp [hr]
    · rw [charge?_cons_of_not_covers hr, Option.map_eq_none_iff, ih]
      simp [hr]

lemma Charges.count_eq (h : Charges t rules rules') :
    (rules'.map fun r => r.count.toNat).sum + 1 = (rules.map fun r => r.count.toNat).sum := by
  obtain ⟨i, r, hi, -, -, hcount, rfl⟩ := h
  obtain ⟨hlt, rfl⟩ := List.getElem?_eq_some_iff.1 hi
  obtain ⟨before, after, he, -, hset⟩ : ∃ before after, rules = before ++ rules[i] :: after ∧
      before.length = i ∧ rules.set i rules[i].charged = before ++ rules[i].charged :: after :=
    List.exists_of_set hlt
  have hsum := congrArg (fun rules => (rules.map fun r => r.count.toNat).sum) he
  rw [hset]
  simp only [List.map_append, List.map_cons, List.sum_append, List.sum_cons] at hsum ⊢
  omega

/-! ### Rules on their own -/

/-- Whether the rule in a place is the only one between its nodes. -/
def Lone (rules : List DropRule) (i : Nat) (r : DropRule) : Prop :=
  rules[i]? = some r ∧
    ∀ j, ∀ s ∈ rules[j]?, s.sender = r.sender → s.receiver = r.receiver → j = i

namespace Lone

lemma set_self (h : Lone rules i r) : Lone (rules.set i r.charged) i r.charged := by
  obtain ⟨hi, honly⟩ := h
  have hlt := (List.getElem?_eq_some_iff.1 hi).1
  refine ⟨List.getElem?_set_self hlt, fun j s hs hsender hreceiver => ?_⟩
  by_cases hj : j = i
  · exact hj
  · rw [List.getElem?_set_ne (Ne.symm hj)] at hs
    exact honly j s hs hsender hreceiver

lemma set_of_ne (h : Lone rules i r) {k : Nat} {s : DropRule} (hs : rules[k]? = some s)
    (hk : k ≠ i) : Lone (rules.set k s.charged) i r := by
  obtain ⟨hi, honly⟩ := h
  have hlt := (List.getElem?_eq_some_iff.1 hs).1
  refine ⟨(List.getElem?_set_ne hk).trans hi, fun j s' hs' hsender hreceiver => ?_⟩
  by_cases hj : j = k
  · rw [hj, List.getElem?_set_self hlt] at hs'
    cases hs'
    exact absurd (honly k s hs hsender hreceiver) hk
  · rw [List.getElem?_set_ne (Ne.symm hj)] at hs'
    exact honly j s' hs' hsender hreceiver

/-- A rule on its own is the one that is charged for the packets that concern it. -/
lemma charges (h : Lone rules i r) (hc : Charges t rules rules') :
    Lone rules' i (if r.Concerns t then r.charged else r) ∧ (r.Concerns t → r.Covers t) := by
  obtain ⟨k, s, hk, hcovers, -, -, rfl⟩ := hc
  by_cases hki : k = i
  · subst hki
    obtain rfl : s = r := Option.some.inj (hk.symm.trans h.1)
    rw [if_pos hcovers.2]
    exact ⟨h.set_self, fun _ => hcovers⟩
  · have hr : ¬ r.Concerns t := fun hr => hki (h.2 k s hk (hcovers.2.1.trans hr.1.symm)
      (hcovers.2.2.1.trans hr.2.1.symm))
    rw [if_neg hr]
    exact ⟨h.set_of_ne hk hki, fun hr' => absurd hr' hr⟩

end Lone

end DropRule

/-! ### Crossing the channel -/

namespace Channel

variable {c : Channel}

/-- What may become of a transmission, and of the channel with it. Only chance needs randomness, and
it decides on what is left of the rules. -/
inductive Crosses (c : Channel) (t : Transmission) : Verdict → Channel → Prop where
  | outOfRange (h : c.outOfRange t.distance) : Crosses c t (.drop .outOfRange) c
  | rule {rules : List DropRule} (h : ¬ c.outOfRange t.distance)
      (hr : DropRule.charge? t.sender t.receiver t.kinds c.rules = some rules) :
      Crosses c t (.drop .rule) { c with rules }
  | chance {v : Verdict} {c' : Channel} (h : ¬ c.outOfRange t.distance)
      (hr : DropRule.charge? t.sender t.receiver t.kinds c.rules = none)
      (hv : v = .drop .loss ∨ ∃ latency, v = .deliver latency) (hrules : c'.rules = c.rules)
      (hsettings : c'.settings = c.settings) : Crosses c t v c'

lemma rules_drawLoss (c : Channel) :
    c.drawLoss.2.rules = c.rules ∧ c.drawLoss.2.settings = c.settings := by
  rw [drawLoss]
  split <;> exact ⟨rfl, rfl⟩

lemma rules_drawJitter (c : Channel) :
    c.drawJitter.2.rules = c.rules ∧ c.drawJitter.2.settings = c.settings := by
  rw [drawJitter]
  split
  · exact ⟨rfl, rfl⟩
  · split <;> exact ⟨rfl, rfl⟩

lemma crosses (c : Channel) (t : Transmission) : Crosses c t (c.verdict t) (c.cross t) := by
  rw [verdict, cross, transmit]
  split
  · rename_i h
    exact .outOfRange h
  · rename_i h
    split
    · rename_i rules hr
      exact .rule h hr
    · rename_i hr
      obtain ⟨hl, hl'⟩ := c.rules_drawLoss
      obtain ⟨hj, hj'⟩ := c.drawLoss.2.rules_drawJitter
      dsimp only
      split
      · exact .chance h hr (.inl rfl) hl hl'
      · exact .chance h hr (.inr ⟨_, rfl⟩) (hj.trans hl) (hj'.trans hl')

lemma settings_cross (c : Channel) (t : Transmission) : (c.cross t).settings = c.settings := by
  have hc := c.crosses t
  generalize c.verdict t = v, c.cross t = c' at hc ⊢
  cases hc with
  | outOfRange | rule => rfl
  | chance _ _ _ _ hsettings => exact hsettings

lemma outOfRange_cross (c : Channel) (t : Transmission) :
    (c.cross t).outOfRange = c.outOfRange := by
  funext distance
  simp only [outOfRange, settings_cross]

lemma outOfRange_foldl (c : Channel) (ts : List Transmission) :
    (ts.foldl cross c).outOfRange = c.outOfRange := by
  induction ts generalizing c with
  | nil => rfl
  | cons t ts ih => exact (ih (c.cross t)).trans (c.outOfRange_cross t)

/-- A rule drops a packet if it is in range and a rule with drops left is about it. -/
lemma verdict_eq_rule_iff : c.verdict t = .drop .rule ↔
    ¬ c.outOfRange t.distance ∧ ∃ r ∈ c.rules, r.Covers t := by
  have hc := c.crosses t
  generalize c.verdict t = v, c.cross t = c' at hc ⊢
  cases hc with
  | outOfRange h => simp [h]
  | rule h hr =>
    obtain ⟨i, r, hi, hcovers, -⟩ := DropRule.charges_of_charge? hr
    exact iff_of_true rfl ⟨h, r, List.mem_of_getElem? hi, hcovers⟩
  | chance _ hr hv =>
    refine iff_of_false ?_ ?_
    · rcases hv with rfl | ⟨latency, rfl⟩ <;> simp
    · rintro ⟨-, r, hmem, hcovers⟩
      exact DropRule.charge?_eq_none_iff.1 hr r hmem hcovers

/-- The rules are charged for the packets that they drop, and for no others. -/
lemma rules_cross (c : Channel) (t : Transmission) :
    if c.verdict t = .drop .rule then DropRule.Charges t c.rules (c.cross t).rules
    else (c.cross t).rules = c.rules := by
  have hc := c.crosses t
  generalize c.verdict t = v, c.cross t = c' at hc ⊢
  cases hc with
  | outOfRange => rfl
  | rule _ hr => exact DropRule.charges_of_charge? hr
  | chance _ _ hv hrules => rcases hv with rfl | ⟨latency, rfl⟩ <;> exact hrules

/-- What is dropped by range or by a rule is not left to chance. -/
lemma randomness_cross (h : c.verdict t = .drop .outOfRange ∨ c.verdict t = .drop .rule) :
    (c.cross t).randomness = c.randomness := by
  have hc := c.crosses t
  generalize c.verdict t = v, c.cross t = c' at hc h ⊢
  cases hc with
  | outOfRange | rule => rfl
  | chance _ _ hv => rcases hv with rfl | ⟨latency, rfl⟩ <;> simp at h

/-- Every drop by a rule is taken off the count of one. -/
lemma count_verdicts_add_sum (c : Channel) (ts : List Transmission) :
    (c.verdicts ts).count (.drop .rule) +
        ((ts.foldl cross c).rules.map fun r => r.count.toNat).sum =
      (c.rules.map fun r => r.count.toNat).sum := by
  induction ts generalizing c with
  | nil => exact Nat.zero_add _
  | cons t ts ih =>
    have hrules := c.rules_cross t
    rw [verdicts, List.foldl_cons, List.count_cons]
    split at hrules
    · rename_i hv
      rw [if_pos (beq_iff_eq.2 hv), ← hrules.count_eq, ← ih (c.cross t), Nat.add_right_comm]
    · rename_i hv
      rw [if_neg (mt beq_iff_eq.1 hv), Nat.add_zero, ih (c.cross t), hrules]

/-- Whether a transmission meets a rule: it is in range and the rule is about it. -/
def meets (c : Channel) (r : DropRule) (t : Transmission) : Bool :=
  !c.outOfRange t.distance && decide (r.Concerns t)

lemma meets_iff : c.meets r t ↔ ¬ c.outOfRange t.distance ∧ r.Concerns t := by
  simp [meets]

lemma meets_cross (c : Channel) (t : Transmission) (r : DropRule) :
    (c.cross t).meets r = c.meets r := by
  funext t'
  rw [meets, outOfRange_cross, meets]

/-- Whether the transmissions that meet a rule are dropped by a rule, one after the other. -/
def fates (c : Channel) (r : DropRule) (ts : List Transmission) : List Bool :=
  ((ts.zip (c.verdicts ts)).filter fun x => c.meets r x.1).map fun x => x.2 == .drop .rule

lemma fates_cons (c : Channel) (r : DropRule) (t : Transmission) (ts : List Transmission) :
    c.fates r (t :: ts) =
      if c.meets r t then (c.verdict t == .drop .rule) :: (c.cross t).fates r ts
      else (c.cross t).fates r ts := by
  simp only [fates, verdicts, List.zip_cons_cons, List.filter_cons, meets_cross]
  split <;> rfl

/-- A rule on its own drops the first transmissions that meet it, as long as it has drops left. -/
lemma lone_cross (h : DropRule.Lone c.rules i r) (t : Transmission) :
    if c.meets r t ∧ 0 < r.count then
      c.verdict t = .drop .rule ∧ DropRule.Lone (c.cross t).rules i r.charged
    else (c.meets r t → c.verdict t ≠ .drop .rule) ∧ DropRule.Lone (c.cross t).rules i r := by
  have hrules := c.rules_cross t
  by_cases hv : c.verdict t = .drop .rule
  · rw [if_pos hv] at hrules
    obtain ⟨hlone, hcovers⟩ := h.charges hrules
    have hrange := (verdict_eq_rule_iff.1 hv).1
    by_cases hr : r.Concerns t
    · rw [if_pos hr] at hlone
      rw [if_pos ⟨meets_iff.2 ⟨hrange, hr⟩, (hcovers hr).1⟩]
      exact ⟨hv, hlone⟩
    · rw [if_neg hr] at hlone
      have hmeets : ¬ c.meets r t := fun hm => hr (meets_iff.1 hm).2
      rw [if_neg fun hm => hmeets hm.1]
      exact ⟨fun hm => absurd hm hmeets, hlone⟩
  · rw [if_neg hv] at hrules
    have hcovers : ¬ (c.meets r t ∧ 0 < r.count) := fun ⟨hm, hpos⟩ =>
      hv (verdict_eq_rule_iff.2 ⟨(meets_iff.1 hm).1, r, List.mem_of_getElem? h.1, hpos,
        (meets_iff.1 hm).2⟩)
    rw [if_neg hcovers, hrules]
    exact ⟨fun _ => hv, h⟩

lemma fates_of_lone (h : DropRule.Lone c.rules i r) (ts : List Transmission) :
    c.fates r ts = List.replicate (min r.count.toNat (ts.countP (c.meets r))) true ++
        List.replicate (ts.countP (c.meets r) - r.count.toNat) false ∧
      (ts.foldl cross c).rules[i]?.map (fun r => r.count.toNat) =
        some (r.count.toNat - ts.countP (c.meets r)) := by
  induction ts generalizing c r with
  | nil => simp [fates, h.1]
  | cons t ts ih =>
    have hcross := lone_cross h t
    rw [fates_cons, List.foldl_cons, List.countP_cons]
    split at hcross
    · rename_i hm
      obtain ⟨hv, hlone⟩ := hcross
      obtain ⟨hfates, hleft⟩ := ih hlone
      have hmeets : (c.cross t).meets r.charged = c.meets r := c.meets_cross t r
      have hcount := DropRule.Covers.toNat_charged ⟨hm.2, (meets_iff.1 hm.1).2⟩
      rw [hmeets] at hfates hleft
      rw [if_pos hm.1, if_pos hm.1, beq_iff_eq.2 hv, ← hcount, Nat.add_min_add_right,
        Nat.add_sub_add_right, List.replicate_succ, List.cons_append, hleft, Nat.add_sub_add_right]
      exact ⟨congrArg (true :: ·) hfates, rfl⟩
    · rename_i hm
      obtain ⟨hv, hlone⟩ := hcross
      obtain ⟨hfates, hleft⟩ := ih hlone
      rw [c.meets_cross t r] at hfates hleft
      rw [hfates, hleft]
      by_cases hmt : c.meets r t
      · -- the rule has no drops left
        have hzero : r.count.toNat = 0 :=
          Nat.eq_zero_of_not_pos fun hpos => hm ⟨hmt, UInt32.lt_iff_toNat_lt.2 hpos⟩
        have hfalse : (c.verdict t == .drop .rule) = false := beq_eq_false_iff_ne.2 (hv hmt)
        rw [if_pos hmt, if_pos hmt, hfalse, hzero]
        simp [List.replicate_succ]
      · rw [if_neg hmt, if_neg hmt]
        exact ⟨rfl, rfl⟩

/-- Drop rules are charged exactly. After any transmissions, a packet is dropped by a rule if it is
in range and some rule with drops left is about it; the first such rule loses one drop then, which
it has, and all others stay as they are. Otherwise no rule changes. What is dropped because it is
out of range or by a rule is not left to chance. The drops by rules and those that are left make up
the drops at the beginning. And a rule that is the only one between its nodes drops the first
packets that meet it, as many as it says, no matter what else is sent. -/
theorem rules_are_charged_exactly (c : Channel) (ts : List Transmission) :
    (∀ t, ((ts.foldl cross c).verdict t = .drop .rule ↔
        ¬ c.outOfRange t.distance ∧ ∃ r ∈ (ts.foldl cross c).rules, 0 < r.count ∧ r.Concerns t) ∧
      (if (ts.foldl cross c).verdict t = .drop .rule then
        DropRule.Charges t (ts.foldl cross c).rules ((ts.foldl cross c).cross t).rules
      else ((ts.foldl cross c).cross t).rules = (ts.foldl cross c).rules) ∧
      ((ts.foldl cross c).verdict t = .drop .outOfRange ∨
          (ts.foldl cross c).verdict t = .drop .rule →
        ((ts.foldl cross c).cross t).randomness = (ts.foldl cross c).randomness)) ∧
    (c.verdicts ts).count (.drop .rule) +
        ((ts.foldl cross c).rules.map fun r => r.count.toNat).sum =
      (c.rules.map fun r => r.count.toNat).sum ∧
    ∀ i r, DropRule.Lone c.rules i r →
      c.fates r ts = List.replicate (min r.count.toNat (ts.countP (c.meets r))) true ++
          List.replicate (ts.countP (c.meets r) - r.count.toNat) false ∧
        (ts.foldl cross c).rules[i]?.map (fun r => r.count.toNat) =
          some (r.count.toNat - ts.countP (c.meets r)) := by
  refine ⟨fun t => ⟨?_, rules_cross _ t, randomness_cross⟩, c.count_verdicts_add_sum ts,
    fun i r h => fates_of_lone h ts⟩
  rw [verdict_eq_rule_iff, outOfRange_foldl]
  rfl

/-- A rule for two maps from node 3 to node 4, behind two rules that are both about packets from
node 1 to node 2. -/
def ruled : Channel :=
  ⟨ChannelSettings.standard,
    [⟨⟨1⟩, ⟨2⟩, .densityMap, 1⟩, ⟨⟨1⟩, ⟨2⟩, .clusterInfo, 2⟩, ⟨⟨3⟩, ⟨4⟩, .densityMap, 2⟩],
    Randomness.ofSeed 42⟩

/-- Packets with both kinds of message. -/
def packetsOfBoth : List Transmission :=
  [⟨⟨1⟩, ⟨2⟩, [.clusterInfo, .densityMap], none⟩, ⟨⟨3⟩, ⟨4⟩, [.densityMap], none⟩,
    ⟨⟨1⟩, ⟨2⟩, [.clusterInfo, .densityMap], none⟩, ⟨⟨3⟩, ⟨4⟩, [.clusterInfo, .densityMap], none⟩,
    ⟨⟨3⟩, ⟨4⟩, [.densityMap], none⟩]

/-- The rule on its own drops two of three maps, while the other two rules are charged in turn. -/
theorem third_map_gets_through :
    DropRule.Lone ruled.rules 2 ⟨⟨3⟩, ⟨4⟩, .densityMap, 2⟩ ∧
    ruled.fates ⟨⟨3⟩, ⟨4⟩, .densityMap, 2⟩ packetsOfBoth = [true, true, false] ∧
    (packetsOfBoth.foldl cross ruled).rules.map (·.count) = [0, 1, 0] := by
  have hlone : DropRule.Lone ruled.rules 2 ⟨⟨3⟩, ⟨4⟩, .densityMap, 2⟩ := by
    refine ⟨rfl, fun j s hs hsender _ => ?_⟩
    match j, hs with
    | 0, hs | 1, hs =>
      cases hs
      exact absurd hsender (by decide)
    | 2, _ => rfl
  have hfates := ((rules_are_charged_exactly ruled packetsOfBoth).2.2 2 _ hlone).1
  exact ⟨hlone, hfates.trans (by decide), by decide⟩

end Channel

end ClusterWave
