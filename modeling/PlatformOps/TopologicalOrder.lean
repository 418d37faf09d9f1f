/-
**Topological orders by a worklist.**

A finite graph is a list of nodes and a list of edges between them.  The worklist algorithm keeps
for each node the number of edges into it whose source has not been handled, and a queue of the
nodes for which that number is zero.  It handles the first node of the queue, lowers the numbers of
its successors, and appends to the queue those whose number has become zero.

The invariant says what the numbers count and that the handled nodes come in an order in which
every node has its predecessors before it.  At the end the queue is empty; then a node is handled if
its predecessors are, so that the nodes that are left each have a predecessor that is left, and there
is none exactly if the graph has no cycle.

Main definitions:

* `Arrow`, `Acyclic` — the edge relation, and that no node reaches itself;
* `Compatible`, `Schedule` — the orders in which predecessors come first, and those of all nodes;
* `Worklist`, `Worklist.release`, `Worklist.drain` — the algorithm;
* `Worklist.Sound` — its invariant;
* `ancestors` — the nodes found by following edges backwards, by a number of rounds.

Main results:

* `Worklist.Sound.handle`, `Worklist.Sound.drain` — one iteration keeps the invariant, and so does
  the loop;
* `Worklist.Sound.queue_drain` — the loop ends within as many iterations as there are nodes;
* `Worklist.Sound.length_ordered_iff` — **all nodes are handled exactly if the graph is acyclic**;
* `Schedule.mem_ancestors_iff` — in a graph with a schedule, the ancestors are the nodes with a path
  to the node;
* `Schedule.exists_before` — without a path, some schedule has the node before the other.
-/

import Mathlib.Data.List.Nodup
import Mathlib.Data.List.Perm.Basic
import Mathlib.Data.Set.Finite.Basic
import Mathlib.Logic.Relation
import Mathlib.Order.WellFounded

set_option relaxedAutoImplicit false
set_option autoImplicit false

namespace PlatformOps.TopologicalOrder

universe u

variable {α : Type u}

/-! ### Graphs and orders -/

/-- There is an edge from one node to another. -/
def Arrow (edges : List (α × α)) (a b : α) : Prop := (a, b) ∈ edges

/-- There is a path of one or more edges. -/
abbrev Reaches (edges : List (α × α)) : α → α → Prop := Relation.TransGen (Arrow edges)

/-- No node reaches itself. -/
def Acyclic (edges : List (α × α)) : Prop := ∀ a, ¬ Reaches edges a a

/-- Every node of the list has its predecessors before it. -/
def Compatible (edges : List (α × α)) (order : List α) : Prop :=
  ∀ done node rest, order = done ++ node :: rest → ∀ a, Arrow edges a node → a ∈ done

/-- An order of all nodes, compatible with the edges. -/
structure Schedule (nodes : List α) (edges : List (α × α)) (order : List α) : Prop where
  perm : order.Perm nodes
  compatible : Compatible edges order

variable {nodes : List α} {edges : List (α × α)}

theorem compatible_nil : Compatible edges [] := by
  intro done node rest h
  simp at h

/-- A node whose predecessors are in a compatible list may come next. -/
theorem Compatible.concat {order : List α} (h : Compatible edges order) {b : α}
    (hb : ∀ a, Arrow edges a b → a ∈ order) : Compatible edges (order ++ [b]) := by
  intro done node rest heq a ha
  rcases List.eq_nil_or_concat' rest with rfl | ⟨rest, last, rfl⟩
  · obtain ⟨rfl, hnode⟩ := List.append_inj' heq rfl
    cases hnode
    exact hb a ha
  · have hsplit : order ++ [b] = (done ++ node :: rest) ++ [last] := by simpa using heq
    obtain ⟨rfl, -⟩ := List.append_inj' hsplit rfl
    exact h done node rest rfl a ha

/-- What reaches a node of a compatible list comes before it. -/
theorem Compatible.mem_of_reaches {order : List α} (h : Compatible edges order) {a b : α}
    (hab : Reaches edges a b) :
    ∀ done rest, order = done ++ b :: rest → a ∈ done := by
  induction hab with
  | single hab =>
      intro done rest heq
      exact h done _ rest heq a hab
  | tail _ hcb ih =>
      intro done rest heq
      have hc := h done _ rest heq _ hcb
      obtain ⟨front, back, rfl⟩ := List.append_of_mem hc
      have ha := ih front (back ++ _ :: rest) (by simpa using heq)
      exact List.mem_append_left _ ha

theorem Schedule.mem_iff {order : List α} (h : Schedule nodes edges order) {a : α} :
    a ∈ order ↔ a ∈ nodes :=
  h.perm.mem_iff

/-- What reaches a node comes before it in every schedule. -/
theorem Schedule.mem_of_reaches {order : List α} (h : Schedule nodes edges order) {a b : α}
    (hab : Reaches edges a b) {done rest : List α} (heq : order = done ++ b :: rest) : a ∈ done :=
  h.compatible.mem_of_reaches hab done rest heq

/-- The last edge of a path. -/
theorem exists_arrow_of_reaches {a b : α} (h : Reaches edges a b) : ∃ c, Arrow edges c b := by
  cases h with
  | single h => exact ⟨_, h⟩
  | tail _ h => exact ⟨_, h⟩

/-- A graph with a schedule has no cycle. -/
theorem Schedule.acyclic {order : List α} (h : Schedule nodes edges order) (hnodes : nodes.Nodup)
    (htargets : ∀ a b, Arrow edges a b → b ∈ nodes) : Acyclic edges := by
  intro a ha
  obtain ⟨c, hc⟩ := exists_arrow_of_reaches ha
  obtain ⟨done, rest, heq⟩ := List.append_of_mem (h.mem_iff.2 (htargets c a hc))
  have hdone := h.mem_of_reaches ha heq
  have hnodup : (done ++ a :: rest).Nodup := heq ▸ h.perm.nodup_iff.2 hnodes
  exact (List.nodup_append.1 hnodup).2.2 a hdone a List.mem_cons_self rfl

/-- Some node has no edge into it. -/
theorem Schedule.exists_root {order : List α} (h : Schedule nodes edges order)
    (hne : nodes ≠ []) : ∃ a ∈ nodes, ∀ b, ¬ Arrow edges b a := by
  cases order with
  | nil => exact absurd h.perm.nil_eq.symm hne
  | cons a rest =>
      refine ⟨a, h.mem_iff.1 List.mem_cons_self, fun b hb => ?_⟩
      simpa using h.compatible [] a rest rfl b hb

/-- Some node has no edge out of it. -/
theorem Schedule.exists_leaf {order : List α} (h : Schedule nodes edges order)
    (hnodes : nodes.Nodup) (htargets : ∀ a b, Arrow edges a b → b ∈ nodes) (hne : nodes ≠ []) :
    ∃ a ∈ nodes, ∀ b, ¬ Arrow edges a b := by
  rcases List.eq_nil_or_concat' order with rfl | ⟨front, a, rfl⟩
  · exact absurd h.perm.nil_eq.symm hne
  · refine ⟨a, h.mem_iff.1 (by simp), fun b hab => ?_⟩
    have hnodup : (front ++ [a]).Nodup := h.perm.nodup_iff.2 hnodes
    have ha : a ∉ front := fun hmem => (List.nodup_append.1 hnodup).2.2 a hmem a (by simp) rfl
    -- the node is before its successor, but it is the last one
    obtain ⟨done, rest, heq⟩ := List.append_of_mem (h.mem_iff.2 (htargets a b hab))
    have hdone := h.compatible done b rest heq a hab
    rcases List.eq_nil_or_concat' rest with rfl | ⟨rest, last, rfl⟩
    · exact ha ((List.append_inj' heq rfl).1 ▸ hdone)
    · have hsplit : front ++ [a] = (done ++ b :: rest) ++ [last] := by simpa using heq
      exact ha ((List.append_inj' hsplit rfl).1 ▸ List.mem_append_left _ hdone)

/-! ### Another schedule -/

/-- Among the nodes that pass a test, those before a node include its predecessors. -/
theorem Compatible.mem_of_filter {order : List α} (h : Compatible edges order) {p : α → Bool}
    {done rest : List α} {a b : α} (heq : order.filter p = done ++ b :: rest)
    (hab : Arrow edges a b) (ha : p a = true) : a ∈ done := by
  obtain ⟨front, back, rfl, rfl, hback⟩ := List.filter_eq_append_iff.1 heq
  obtain ⟨middle, last, rfl, hmiddle, -, -⟩ := List.filter_eq_cons_iff.1 hback
  have hmem := h (front ++ middle) b last (by simp) a hab
  rcases List.mem_append.1 hmem with hfront | hmid
  · exact List.mem_filter.2 ⟨hfront, ha⟩
  · exact absurd ha (hmiddle a hmid)

/-- The nodes of a set that is closed under predecessors may come first. -/
theorem Compatible.filter_append {order : List α} (h : Compatible edges order)
    (p : α → Bool) (hp : ∀ a b, Arrow edges a b → p b = true → p a = true) :
    Compatible edges (order.filter p ++ order.filter fun a => !p a) := by
  intro done b rest heq a hab
  have hb : b ∈ order := by
    have hmem : b ∈ done ++ b :: rest := by simp
    rw [← heq, List.mem_append] at hmem
    rcases hmem with hmem | hmem
    · exact (List.mem_filter.1 hmem).1
    · exact (List.mem_filter.1 hmem).1
  have ha : a ∈ order := by
    obtain ⟨front, back, hsplit⟩ := List.append_of_mem hb
    exact hsplit ▸ List.mem_append_left _ (h front b back hsplit a hab)
  -- a node of the second part: its predecessors of the first part are all before it
  have hsecond : ∀ front, done = order.filter p ++ front →
      (order.filter fun a => !p a) = front ++ b :: rest → a ∈ done := by
    rintro front rfl hfront
    cases hpa : p a with
    | true => exact List.mem_append_left _ (List.mem_filter.2 ⟨ha, hpa⟩)
    | false => exact List.mem_append_right _ (h.mem_of_filter hfront hab (by simp [hpa]))
  rcases List.append_eq_append_iff.1 heq with ⟨front, hdone, hfront⟩ | ⟨back, hfirst, hback⟩
  · exact hsecond front hdone hfront
  · cases back with
    | nil => exact hsecond [] (by simpa using hfirst.symm) (by simpa using hback.symm)
    | cons c back =>
        obtain ⟨rfl, -⟩ := List.cons.inj hback
        have hpb : p b = true := by
          have hmem : b ∈ order.filter p := hfirst ▸ by simp
          exact (List.mem_filter.1 hmem).2
        exact h.mem_of_filter hfirst hab (hp a b hab hpb)

/-- **Without a path, some schedule has the node before the other.** -/
theorem Schedule.exists_before {order : List α} (h : Schedule nodes edges order)
    {a b : α} (hb : b ∈ nodes) (hne : a ≠ b) (hab : ¬ Reaches edges a b) :
    ∃ order', Schedule nodes edges order' ∧
      ∃ done rest, order' = done ++ b :: rest ∧ a ∉ done := by
  classical
  -- the node and what reaches it come first
  let p : α → Bool := fun c => decide (Relation.ReflTransGen (Arrow edges) c b)
  have hclosed : ∀ c d, Arrow edges c d → p d = true → p c = true := by
    intro c d hcd hd
    exact decide_eq_true (.head hcd (of_decide_eq_true hd))
  have hpa : p a = false := by
    refine decide_eq_false fun hreach => ?_
    rcases Relation.reflTransGen_iff_eq_or_transGen.1 hreach with heq | hpath
    · exact hne heq.symm
    · exact hab hpath
  have hpb : p b = true := decide_eq_true .refl
  have hperm : (order.filter p ++ order.filter fun c => !p c).Perm nodes :=
    (List.filter_append_perm p order).trans h.perm
  obtain ⟨done, rest, heq⟩ := List.append_of_mem
    (List.mem_filter.2 ⟨h.mem_iff.2 hb, hpb⟩ : b ∈ order.filter p)
  refine ⟨_, ⟨hperm, h.compatible.filter_append p hclosed⟩, done,
    rest ++ order.filter (fun c => !p c), by rw [heq]; simp, fun ha => ?_⟩
  have hmem : a ∈ order.filter p := heq ▸ List.mem_append_left _ ha
  simp [hpa] at hmem

/-! ### Following edges backwards -/

section Ancestors

variable [DecidableEq α]

/-- The sources of the edges into a node. -/
def sources (edges : List (α × α)) (b : α) : List α :=
  (edges.filter fun e => e.2 = b).map Prod.fst

/-- The targets of the edges out of a node. -/
def targets (edges : List (α × α)) (a : α) : List α :=
  (edges.filter fun e => e.1 = a).map Prod.snd

@[simp] theorem mem_sources {a b : α} : a ∈ sources edges b ↔ Arrow edges a b := by
  simp [sources, Arrow]

@[simp] theorem mem_targets {a b : α} : b ∈ targets edges a ↔ Arrow edges a b := by
  simp [targets, Arrow]

theorem sources_concat (edges : List (α × α)) (a b c : α) :
    sources (edges ++ [(a, b)]) c =
      if c = b then sources edges c ++ [a] else sources edges c := by
  by_cases h : c = b
  · simp [sources, h]
  · simp [sources, h, Ne.symm h]

theorem targets_concat (edges : List (α × α)) (a b c : α) :
    targets (edges ++ [(a, b)]) c =
      if c = a then targets edges c ++ [b] else targets edges c := by
  by_cases h : c = a
  · simp [targets, h]
  · simp [targets, h, Ne.symm h]

theorem nodup_targets (h : edges.Nodup) (a : α) : (targets edges a).Nodup := by
  refine List.Nodup.map_on ?_ (h.filter _)
  rintro ⟨x, b⟩ hx ⟨y, c⟩ hy rfl
  have hxa : x = a := by simpa using (List.mem_filter.1 hx).2
  have hya : y = a := by simpa using (List.mem_filter.1 hy).2
  rw [hxa, hya]

/-- The nodes found by following at most so many edges backwards. -/
def ancestors (edges : List (α × α)) : ℕ → α → List α
  | 0, _ => []
  | rounds + 1, b => (sources edges b).flatMap fun a => a :: ancestors edges rounds a

theorem reaches_of_mem_ancestors {rounds : ℕ} {a b : α} (h : a ∈ ancestors edges rounds b) :
    Reaches edges a b := by
  induction rounds generalizing b with
  | zero => simp [ancestors] at h
  | succ rounds ih =>
      simp only [ancestors, List.mem_flatMap, mem_sources, List.mem_cons] at h
      obtain ⟨c, hcb, rfl | hac⟩ := h
      · exact .single hcb
      · exact (ih hac).tail hcb

/-- In a compatible list, as many rounds are enough as there are nodes before the node. -/
theorem Compatible.mem_ancestors {order : List α} (h : Compatible edges order) {a b : α}
    (hab : Reaches edges a b) {rounds : ℕ} {done rest : List α}
    (heq : order = done ++ b :: rest) (hrounds : done.length ≤ rounds) :
    a ∈ ancestors edges rounds b := by
  induction rounds generalizing b done rest with
  | zero =>
      have hdone := h.mem_of_reaches hab done rest heq
      have hnil : done = [] := List.length_eq_zero_iff.1 (by omega)
      simp [hnil] at hdone
  | succ rounds ih =>
      simp only [ancestors, List.mem_flatMap, mem_sources, List.mem_cons]
      cases hab with
      | single hab => exact ⟨a, hab, .inl rfl⟩
      | @tail c _ hac hcb =>
          obtain ⟨front, back, rfl⟩ := List.append_of_mem (h done b rest heq c hcb)
          have hlength : front.length ≤ rounds := by
            simp at hrounds
            omega
          have hsplit : order = front ++ c :: (back ++ b :: rest) := by simpa using heq
          exact ⟨c, hcb, .inr (ih hac hsplit hlength)⟩

/-- **In a graph with a schedule the ancestors are the nodes with a path to the node.** -/
theorem Schedule.mem_ancestors_iff {order : List α} (h : Schedule nodes edges order) {a b : α}
    (hb : b ∈ nodes) : a ∈ ancestors edges nodes.length b ↔ Reaches edges a b := by
  refine ⟨reaches_of_mem_ancestors, fun hab => ?_⟩
  obtain ⟨done, rest, heq⟩ := List.append_of_mem (h.mem_iff.2 hb)
  refine h.compatible.mem_ancestors hab heq ?_
  rw [← h.perm.length_eq, heq]
  simp

end Ancestors

/-! ### The worklist -/

/-- The numbers of the open edges, the nodes that are ready, and those that are handled. -/
structure Worklist (α : Type u) where
  indegree : α → ℤ
  queue : List α
  ordered : List α

namespace Worklist

variable [DecidableEq α]

/-- One of the edges into a node is done with; the node is queued when it was the last. -/
def release (work : Worklist α) (successor : α) : Worklist α :=
  let degree := work.indegree successor - 1
  { work with
    indegree := Function.update work.indegree successor degree
    queue := if degree = 0 then work.queue ++ [successor] else work.queue }

/-- Handle a node: it is taken off the queue, and the edges out of it are done with. -/
def handle (successors : α → List α) (work : Worklist α) (node : α) (rest : List α) :
    Worklist α :=
  (successors node).foldl release
    { work with queue := rest, ordered := work.ordered ++ [node] }

/-- Handle nodes until the queue is empty, at most so many. -/
def drain (successors : α → List α) : ℕ → Worklist α → Worklist α
  | 0, work => work
  | fuel + 1, work =>
      match work.queue with
      | [] => work
      | node :: rest => drain successors fuel (work.handle successors node rest)

/-- What the successors of a node see of its being handled. -/
theorem foldl_release {l : List α} (hl : l.Nodup) (work : Worklist α) :
    (l.foldl release work).ordered = work.ordered ∧
      (l.foldl release work).queue =
        work.queue ++ l.filter (fun a => work.indegree a = 1) ∧
      ∀ a, (l.foldl release work).indegree a =
        work.indegree a - if a ∈ l then 1 else 0 := by
  induction l generalizing work with
  | nil => simp
  | cons b l ih =>
      obtain ⟨hb, hl⟩ := List.nodup_cons.1 hl
      obtain ⟨hordered, hqueue, hdegree⟩ := ih hl (work.release b)
      have hother : ∀ a ∈ l, (work.release b).indegree a = work.indegree a := by
        intro a ha
        have hne : a ≠ b := fun h => hb (h ▸ ha)
        simp [release, Function.update_of_ne hne]
      refine ⟨hordered, ?_, fun a => ?_⟩
      · rw [List.foldl_cons, hqueue]
        have hfilter : l.filter (fun a => decide ((work.release b).indegree a = 1)) =
            l.filter fun a => decide (work.indegree a = 1) :=
          List.filter_congr fun a ha => by rw [hother a ha]
        rw [hfilter]
        by_cases hone : work.indegree b = 1
        · simp [release, hone]
        · have hzero : work.indegree b - 1 ≠ 0 := by omega
          simp [release, hone, hzero]
      · rw [List.foldl_cons, hdegree]
        by_cases hab : a = b
        · subst hab
          simp [release, hb]
        · simp [release, hab]

/-- The number of the edges into a node whose source is not handled. -/
def pending (edges : List (α × α)) (ordered : List α) (b : α) : ℕ :=
  edges.countP fun e => e.2 = b ∧ e.1 ∉ ordered

theorem pending_eq_zero_iff {ordered : List α} {b : α} :
    pending edges ordered b = 0 ↔ ∀ a, Arrow edges a b → a ∈ ordered := by
  simp only [pending, List.countP_eq_zero, decide_eq_true_eq, Arrow, Prod.forall]
  constructor
  · intro h a ha
    by_contra hnot
    exact h a b ha ⟨rfl, hnot⟩
  · rintro h a _ ha ⟨rfl, hnot⟩
    exact hnot (h a ha)

/-- Handling a node takes its edges from what is pending. -/
theorem pending_concat {ordered : List α} {a : α} (ha : a ∉ ordered) (b : α) :
    pending edges ordered b = pending edges (ordered ++ [a]) b + edges.count (a, b) := by
  induction edges with
  | nil => simp [pending]
  | cons e edges ih =>
      obtain ⟨c, d⟩ := e
      simp only [pending, List.countP_cons, List.count_cons] at ih ⊢
      rw [ih]
      by_cases hd : d = b
      · by_cases hc : c = a
        · subst hc
          simp [hd, ha]
          omega
        · simp [hd, hc]
          omega
      · simp [hd]

/-- What holds of the worklist whenever the queue is looked at. -/
structure Sound (nodes : List α) (edges : List (α × α)) (work : Worklist α) : Prop where
  nodup : (work.ordered ++ work.queue).Nodup
  known : ∀ a ∈ work.ordered ++ work.queue, a ∈ nodes
  degree : ∀ b, work.indegree b = pending edges work.ordered b
  ready : ∀ b ∈ nodes, b ∈ work.ordered ++ work.queue ↔ work.indegree b = 0
  compatible : Compatible edges work.ordered

/-- The worklist before the first iteration. -/
theorem sound_start (hnodes : nodes.Nodup) :
    Sound nodes edges
      ⟨fun b => (sources edges b).length, nodes.filter fun b => (sources edges b).length = 0,
        []⟩ := by
  have hpending : ∀ b, pending edges [] b = (sources edges b).length := by
    intro b
    simp [pending, sources, List.countP_eq_length_filter]
  refine ⟨?_, ?_, fun b => ?_, fun b hb => ?_, compatible_nil⟩
  · simpa using hnodes.filter _
  · intro a ha
    rw [List.nil_append] at ha
    exact (List.mem_filter.1 ha).1
  · rw [hpending]
  · simp [hb]

/-- **One iteration keeps the invariant.** -/
theorem Sound.handle {work : Worklist α} (h : Sound nodes edges work) (hedges : edges.Nodup)
    (htargets : ∀ a b, Arrow edges a b → b ∈ nodes) {a : α} {rest : List α}
    (hqueue : work.queue = a :: rest) :
    Sound nodes edges (work.handle (targets edges) a rest) := by
  obtain ⟨hordered', hqueue', hdegree'⟩ := foldl_release (nodup_targets hedges a)
    ⟨work.indegree, rest, work.ordered ++ [a]⟩
  have hnodup := h.nodup
  rw [hqueue] at hnodup
  have ha : a ∉ work.ordered := fun hmem =>
    (List.nodup_append.1 hnodup).2.2 a hmem a List.mem_cons_self rfl
  have hmember : ∀ b, b ∈ (work.ordered ++ [a]) ++ rest ↔ b ∈ work.ordered ++ work.queue := by
    intro b
    simp [hqueue]
  have hpending : ∀ b, work.indegree b =
      pending edges (work.ordered ++ [a]) b + if b ∈ targets edges a then 1 else 0 := by
    intro b
    rw [h.degree, pending_concat ha, hedges.count]
    by_cases hab : (a, b) ∈ edges
    · simp [Arrow, hab]
    · simp [Arrow, hab]
  -- a successor has an open edge, so that it is neither handled nor queued
  have hfresh : ∀ b ∈ targets edges a, b ∉ (work.ordered ++ [a]) ++ rest := by
    intro b hb hmem
    have hzero := (h.ready b (htargets a b (mem_targets.1 hb))).1 ((hmember b).1 hmem)
    have hone := hpending b
    rw [if_pos hb] at hone
    omega
  have hpredecessors : ∀ b, Arrow edges b a → b ∈ work.ordered := by
    have hmem : a ∈ work.ordered ++ work.queue := by simp [hqueue]
    have hzero := (h.ready a (h.known a hmem)).1 hmem
    rw [h.degree] at hzero
    exact pending_eq_zero_iff.1 (by exact_mod_cast hzero)
  refine ⟨?_, ?_, fun b => ?_, fun b hb => ?_, ?_⟩
  · unfold Worklist.handle
    rw [hordered', hqueue', ← List.append_assoc]
    refine List.nodup_append.2 ⟨?_, (nodup_targets hedges a).filter _, ?_⟩
    · simpa using hnodup
    · rintro b hb c hc rfl
      exact hfresh b (List.mem_filter.1 hc).1 hb
  · intro b hb
    unfold Worklist.handle at hb
    rw [hordered', hqueue', ← List.append_assoc, List.mem_append, hmember] at hb
    rcases hb with hb | hb
    · exact h.known b hb
    · exact htargets a b (mem_targets.1 (List.mem_filter.1 hb).1)
  · unfold Worklist.handle
    rw [hdegree', hordered', hpending b]
    simp
  · unfold Worklist.handle
    rw [hdegree', hordered', hqueue', ← List.append_assoc, List.mem_append, hmember,
      h.ready b hb, List.mem_filter, decide_eq_true_eq]
    by_cases hab : b ∈ targets edges a
    · have hone := hpending b
      rw [if_pos hab] at hone
      simp only [hab, true_and, if_true]
      omega
    · simp [hab]
  · unfold Worklist.handle
    rw [hordered']
    exact h.compatible.concat hpredecessors

/-- **The loop keeps the invariant.** -/
theorem Sound.drain {work : Worklist α} (h : Sound nodes edges work) (hedges : edges.Nodup)
    (htargets : ∀ a b, Arrow edges a b → b ∈ nodes) (fuel : ℕ) :
    Sound nodes edges (work.drain (targets edges) fuel) := by
  induction fuel generalizing work with
  | zero => exact h
  | succ fuel ih =>
      unfold Worklist.drain
      cases hqueue : work.queue with
      | nil => exact h
      | cons a rest => exact ih (h.handle hedges htargets hqueue)

theorem Sound.length_le {work : Worklist α} (h : Sound nodes edges work) :
    work.ordered.length + work.queue.length ≤ nodes.length := by
  rw [← List.length_append]
  exact (h.nodup.subperm h.known).length_le

/-- **The loop ends within as many iterations as there are nodes.** -/
theorem Sound.queue_drain {work : Worklist α} (h : Sound nodes edges work)
    (hedges : edges.Nodup) (htargets : ∀ a b, Arrow edges a b → b ∈ nodes) {fuel : ℕ}
    (hfuel : nodes.length ≤ work.ordered.length + fuel) :
    (work.drain (targets edges) fuel).queue = [] := by
  induction fuel generalizing work with
  | zero =>
      have hlength := h.length_le
      exact List.length_eq_zero_iff.1 (by simp only [Worklist.drain]; omega)
  | succ fuel ih =>
      unfold Worklist.drain
      cases hqueue : work.queue with
      | nil => exact hqueue
      | cons a rest =>
          refine ih (h.handle hedges htargets hqueue) ?_
          obtain ⟨hordered, -, -⟩ := foldl_release (nodup_targets hedges a)
            ⟨work.indegree, rest, work.ordered ++ [a]⟩
          unfold Worklist.handle
          rw [hordered, List.length_append, List.length_singleton]
          omega

/-- If as many nodes are handled as there are, they are handled in a schedule. -/
theorem Sound.schedule {work : Worklist α} (h : Sound nodes edges work)
    (hlength : work.ordered.length = nodes.length) : Schedule nodes edges work.ordered := by
  have hnodup := h.nodup.of_append_left
  have hsubset : work.ordered ⊆ nodes := fun a ha => h.known a (List.mem_append_left _ ha)
  exact ⟨(hnodup.subperm hsubset).perm_of_length_le hlength.ge, h.compatible⟩

/-- A node that is left when the queue is empty has a predecessor that is left. -/
theorem Sound.exists_left {work : Worklist α} (h : Sound nodes edges work)
    (hqueue : work.queue = []) {b : α} (hb : b ∈ nodes) (hleft : b ∉ work.ordered) :
    ∃ a, Arrow edges a b ∧ a ∉ work.ordered := by
  by_contra hnone
  have hall : ∀ a, Arrow edges a b → a ∈ work.ordered := by
    intro a hab
    by_contra hnot
    exact hnone ⟨a, hab, hnot⟩
  have hzero : work.indegree b = 0 := by
    rw [h.degree, pending_eq_zero_iff.2 hall]
    rfl
  have hmem := (h.ready b hb).2 hzero
  rw [hqueue, List.append_nil] at hmem
  exact hleft hmem

/-- **When the queue is empty, all nodes are handled exactly if the graph is acyclic.** -/
theorem Sound.length_ordered_iff {work : Worklist α} (h : Sound nodes edges work)
    (hnodes : nodes.Nodup) (hknown : ∀ a b, Arrow edges a b → a ∈ nodes ∧ b ∈ nodes)
    (hqueue : work.queue = []) :
    work.ordered.length = nodes.length ↔ Acyclic edges := by
  constructor
  · intro hlength
    exact (h.schedule hlength).acyclic hnodes fun a b hab => (hknown a b hab).2
  · intro hacyclic
    -- a path among the nodes that are left would not end
    let below : {a // a ∈ nodes} → {a // a ∈ nodes} → Prop :=
      fun a b => Reaches edges a.1 b.1
    have htrans : IsTrans {a // a ∈ nodes} below := ⟨fun _ _ _ hab hbc => hab.trans hbc⟩
    have hirrefl : Std.Irrefl below := ⟨fun a ha => hacyclic a.1 ha⟩
    have hfinite : Finite {a // a ∈ nodes} := List.finite_toSet nodes
    have hwf : WellFounded below := Finite.wellFounded_of_trans_of_irrefl _
    have hall : ∀ b : {a // a ∈ nodes}, b.1 ∈ work.ordered := by
      intro b
      induction b using hwf.induction with
      | _ b ih =>
          by_contra hleft
          obtain ⟨a, hab, hnot⟩ := h.exists_left hqueue b.2 hleft
          exact hnot (ih ⟨a, (hknown a b.1 hab).1⟩ (.single hab))
    have hge := (hnodes.subperm fun b hb => hall ⟨b, hb⟩).length_le
    have hle := h.length_le
    omega

end Worklist

end PlatformOps.TopologicalOrder
