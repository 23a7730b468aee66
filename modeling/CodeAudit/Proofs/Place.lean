import Mathlib.Algebra.BigOperators.Fin
import Mathlib.Algebra.Order.BigOperators.Group.Finset
import Mathlib.Algebra.Order.BigOperators.Group.List

/-!
This module contains the nodes of a tree by their places, for any kind of tree. Nodes of which none is below
another have trees without a common node, so what is summed up over these trees is part of the sum over the
whole.
-/

namespace CodeAudit

variable {α : Type} {children : α → List α}

/--
The node at a place below a node. A place has a number for each level on the way, which counts the nodes
right below from zero.
-/
def nodeAt? (children : α → List α) : List Nat → α → Option α
  | [], n => some n
  | i :: place, n => (children n)[i]?.bind (nodeAt? children place)

/--
Neither of two places is at or below the other one.
-/
def Apart (p q : List Nat) : Prop :=
  ¬ p <+: q ∧ ¬ q <+: p

instance (p q : List Nat) : Decidable (Apart p q) :=
  inferInstanceAs (Decidable (_ ∧ _))

theorem apart_cons {i : Nat} {p q : List Nat} : Apart (i :: p) (i :: q) ↔ Apart p q := by
  unfold Apart
  simp only [List.cons_prefix_cons, true_and]

theorem nodeAt?_cons {i : Nat} {place : List Nat} {n m : α}
    : nodeAt? children (i :: place) n = some m ↔
        ∃ c, (children n)[i]? = some c ∧ nodeAt? children place c = some m :=
  Option.bind_eq_some_iff

/-! ### Families of nodes -/

/--
A node and its place as seen from the node with the number `i`, if it is at or below that one.
-/
def stepInto? (i : Nat) : List Nat × α → Option (List Nat × α)
  | ([], _) => none
  | (j :: place, m) => if j = i then some (place, m) else none

theorem stepInto?_eq_some {i : Nat} {g g' : List Nat × α}
    : stepInto? i g = some g' ↔ g = (i :: g'.1, g'.2) := by
  rcases g with ⟨place, m⟩
  cases place with
  | nil => simp [stepInto?]
  | cons j place =>
    by_cases hj : j = i
    . simp [stepInto?, hj, Prod.ext_iff]
    . simp [stepInto?, hj]

/--
What is summed up over a family without the whole tree in it is summed up for each node right below.
-/
theorem sum_family {n : α} {gs : List (List Nat × α)}
    (hgs : ∀ g ∈ gs, g.1 ≠ [] ∧ nodeAt? children g.1 n = some g.2) (f : α → Nat)
    : (gs.map fun g => f g.2).sum =
        ∑ i : Fin (children n).length, ((gs.filterMap (stepInto? i.val)).map fun g => f g.2).sum := by
  induction gs with
  | nil => simp
  | cons g gs ih =>
    rcases g with ⟨place, m⟩
    rcases List.forall_mem_cons.mp hgs with ⟨⟨hplace, hm⟩, hrest⟩
    cases place with
    | nil => exact absurd rfl hplace
    | cons j place =>
      rcases nodeAt?_cons.mp hm with ⟨c, hc, _⟩
      rcases List.getElem?_eq_some_iff.mp hc with ⟨hj, _⟩
      have hsplit : ∀ i : Fin (children n).length,
          ((((j :: place, m) :: gs).filterMap (stepInto? i.val)).map fun g => f g.2).sum =
            (if ⟨j, hj⟩ = i then f m else 0) +
              ((gs.filterMap (stepInto? i.val)).map fun g => f g.2).sum := by
        intro i
        by_cases hi : j = i.val
        . simp [stepInto?, hi]
        . simp [stepInto?, hi, Fin.ext_iff]
      simp only [hsplit, Finset.sum_add_distrib, Finset.sum_ite_eq, Finset.mem_univ, if_true]
      rw [List.map_cons, List.sum_cons, ih hrest]

theorem eq_singleton_of_root {gs : List (List Nat × α)} (hapart : gs.Pairwise fun g g' => Apart g.1 g'.1)
    {m : α} (hmem : ([], m) ∈ gs) : gs = [([], m)] := by
  rcases List.append_of_mem hmem with ⟨front, back, rfl⟩
  rw [List.pairwise_append, List.pairwise_cons] at hapart
  rcases hapart with ⟨_, ⟨hback, _⟩, hfront⟩
  have hnil : front = [] ∧ back = [] := by
    constructor
    . rw [List.eq_nil_iff_forall_not_mem]
      intro g hg
      exact (hfront g hg _ List.mem_cons_self).2 List.nil_prefix
    . rw [List.eq_nil_iff_forall_not_mem]
      intro g hg
      exact (hback g hg).1 List.nil_prefix
  rw [hnil.1, hnil.2]
  rfl

/--
Several nodes of which none is below another have together no more than the tree that they are in, if every
node has at least what those right below it have together.
-/
theorem sum_le_of_apart {total : α → Nat} (htotal : ∀ n, ((children n).map total).sum ≤ total n) {n : α}
    {gs : List (List Nat × α)} (hgs : ∀ g ∈ gs, nodeAt? children g.1 n = some g.2)
    (hapart : gs.Pairwise fun g g' => Apart g.1 g'.1) : (gs.map fun g => total g.2).sum ≤ total n := by
  -- The induction is on a bound for the lengths of the places: one step into the tree makes all of them shorter.
  have hbound : ∃ depth, ∀ g ∈ gs, g.1.length < depth := by
    refine ⟨(gs.map fun g => g.1.length).sum + 1, fun g hg => ?_⟩
    exact Nat.lt_succ_of_le (List.le_sum_of_mem (List.mem_map_of_mem hg))
  rcases hbound with ⟨depth, hdepth⟩
  induction depth generalizing n gs with
  | zero =>
    cases gs with
    | nil => simp
    | cons g gs => exact absurd (hdepth g List.mem_cons_self) (Nat.not_lt_zero _)
  | succ depth ih =>
    by_cases hroot : ∃ g ∈ gs, g.1 = []
    . rcases hroot with ⟨⟨place, m⟩, hmem, rfl⟩
      rw [eq_singleton_of_root hapart hmem, List.map_singleton, List.sum_singleton]
      have hm := hgs _ hmem
      cases hm
      exact Nat.le_refl _
    . have hbelow : ∀ g ∈ gs, g.1 ≠ [] ∧ nodeAt? children g.1 n = some g.2 :=
        fun g hg => ⟨fun h => hroot ⟨g, hg, h⟩, hgs g hg⟩
      have hchild : ∀ i : Fin (children n).length,
          ((gs.filterMap (stepInto? i.val)).map fun g => total g.2).sum ≤ total (children n)[i] := by
        intro i
        apply ih
        . intro g hg
          rcases List.mem_filterMap.mp hg with ⟨g', hg', hstep⟩
          rw [stepInto?_eq_some] at hstep
          have hat := hgs g' hg'
          rw [hstep, nodeAt?_cons] at hat
          rcases hat with ⟨c, hc, hat⟩
          rw [List.getElem?_eq_getElem i.isLt, Option.some.injEq] at hc
          rw [← hc] at hat
          exact hat
        . apply hapart.filterMap
          intro g g' h b hb b' hb'
          rw [stepInto?_eq_some.mp hb, stepInto?_eq_some.mp hb'] at h
          exact apart_cons.mp h
        . intro g hg
          rcases List.mem_filterMap.mp hg with ⟨g', hg', hstep⟩
          have := hdepth g' hg'
          rw [stepInto?_eq_some.mp hstep, List.length_cons] at this
          omega
      calc (gs.map fun g => total g.2).sum
          = ∑ i : Fin (children n).length, ((gs.filterMap (stepInto? i.val)).map fun g => total g.2).sum :=
            sum_family hbelow total
        _ ≤ ∑ i : Fin (children n).length, total (children n)[i] := Finset.sum_le_sum fun i _ => hchild i
        _ = ((children n).map total).sum := Fin.sum_univ_fun_getElem _ _
        _ ≤ total n := htotal n

/--
The same for a family of any kind, and for numbers that start from one.
-/
theorem sum_sub_one_le_of_apart {β : Type} {total : α → Nat}
    (htotal : ∀ n, ((children n).map total).sum ≤ total n) {n : α} {gs : List β} {place : β → List Nat}
    {node : β → α} (hgs : ∀ g ∈ gs, nodeAt? children (place g) n = some (node g))
    (hapart : gs.Pairwise fun g g' => Apart (place g) (place g'))
    : (gs.map fun g => ((1 + total (node g) : Nat) : Int) - 1).sum ≤ ((1 + total n : Nat) : Int) - 1 := by
  have hsum : (gs.map fun g => total (node g)).sum ≤ total n := by
    rw [show (gs.map fun g => total (node g)) = (gs.map fun g => (place g, node g)).map fun g => total g.2 by
      rw [List.map_map]; rfl]
    apply sum_le_of_apart htotal
    . intro g hg
      rcases List.mem_map.mp hg with ⟨g', hg', rfl⟩
      exact hgs g' hg'
    . rw [List.pairwise_map]
      exact hapart
  have hcast : (gs.map fun g => ((1 + total (node g) : Nat) : Int) - 1).sum =
      ((gs.map fun g => total (node g)).sum : Nat) := by
    rw [Nat.cast_list_sum, List.map_map]
    congr 1
    apply List.map_congr_left
    intro g _
    simp
  rw [hcast]
  omega

end CodeAudit
