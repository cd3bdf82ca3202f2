import AlertRules.Proofs.Engine.Verdicts
import Mathlib.Data.List.Basic

/-!
What a condition means.

A node stops at the first child that decides it, so a condition may leave some of its
leaves unread. Nothing hangs on the children that come after: without them the condition
is evaluated in exactly the same way, to its last log line and its last set
(`Condition.evaluate_trim`). And as long as no leaf fails, nothing hangs on the order of
the children either. Each leaf has an answer of its own, which is the one it gives alone
and without a cache, and the answer of the condition is made of these with "and" and "or"
(`Condition.evaluate_meaning`). So children can change places, stand twice, or take the
place of a node of the same kind (`Condition.Rearranged`).
-/

namespace AlertRules

open AlertRules.Action

/-- The answer of a leaf alone, if it has one: no list has been looked up yet. -/
def Leaf.alone (comparator : Comparator) (data : Value) (l : Leaf) : Except Fault Bool :=
  ((l.evaluate comparator data).runFrom .empty []).outcome

def Leaf.isMet (comparator : Comparator) (data : Value) (l : Leaf) : Bool :=
  match l.alone comparator data with
  | .ok met => met
  | .error _ => false

namespace Condition

variable {comparator : Comparator} {data : Value}

/-! ### Children that are not reached -/

mutual

/-- A condition without the children that are not reached from a cache. -/
def trim (comparator : Comparator) (data : Value) : Condition → SetCache → Condition
  | .leaf l, _ => .leaf l
  | .allOf children, cache => .allOf (trimWhile true comparator data children cache)
  | .anyOf children, cache => .anyOf (trimWhile false comparator data children cache)

/-- The children up to the first that does not have the given answer, each without what is
not reached in it. -/
def trimWhile (going : Bool) (comparator : Comparator) (data : Value) :
    List Condition → SetCache → List Condition
  | [], _ => []
  | c :: rest, cache =>
    let ending := (evaluate comparator data c).runFrom cache []
    trim comparator data c cache ::
      if ending.outcome = .ok going then trimWhile going comparator data rest ending.state else []

end

/-- Evaluates children as long as they have a given answer. -/
def evaluateWhile (going : Bool) (comparator : Comparator) (data : Value) :
    List Condition → Action SetCache Bool
  | [] => pure going
  | c :: rest => do
    let met ← evaluate comparator data c
    if met = going then evaluateWhile going comparator data rest else pure met

theorem evaluateAll_eq (cs : List Condition) :
    evaluateAll comparator data cs = evaluateWhile true comparator data cs := by
  induction cs with
  | nil => rfl
  | cons c rest ih =>
      rw [evaluateAll, evaluateWhile, ih]
      congr 1
      funext met
      cases met <;> rfl

theorem evaluateAny_eq (cs : List Condition) :
    evaluateAny comparator data cs = evaluateWhile false comparator data cs := by
  induction cs with
  | nil => rfl
  | cons c rest ih =>
      rw [evaluateAny, evaluateWhile, ih]
      congr 1
      funext met
      cases met <;> rfl

/-- What a child ends with does not depend on the log, but for the log. -/
theorem outcome_state_eq {comparator : Comparator} {data : Value} (c : Condition)
    (cache : SetCache) (log : Log) :
    ((evaluate comparator data c).runFrom cache log).outcome =
        ((evaluate comparator data c).runFrom cache []).outcome ∧
      ((evaluate comparator data c).runFrom cache log).state =
        ((evaluate comparator data c).runFrom cache []).state :=
  have halike := evaluate_alike comparator data c cache cache rfl log []
  ⟨halike.outcome, halike.state⟩

mutual

/-- Without the children that are not reached a condition ends in the same way, with the
same sets and the same log: induction on the condition, from every cache. -/
theorem evaluate_trim : ∀ (c : Condition) (cache : SetCache) (log : Log),
    (evaluate comparator data (trim comparator data c cache)).runFrom cache log =
      (evaluate comparator data c).runFrom cache log
  | .leaf _, _, _ => rfl
  | .allOf children, cache, log => by
      rw [trim, evaluate, evaluate, evaluateAll_eq, evaluateAll_eq]
      exact evaluateWhile_trim true children cache log
  | .anyOf children, cache, log => by
      rw [trim, evaluate, evaluate, evaluateAny_eq, evaluateAny_eq]
      exact evaluateWhile_trim false children cache log

theorem evaluateWhile_trim (going : Bool) : ∀ (cs : List Condition) (cache : SetCache) (log : Log),
    (evaluateWhile going comparator data (trimWhile going comparator data cs cache)).runFrom
        cache log =
      (evaluateWhile going comparator data cs).runFrom cache log
  | [], _, _ => rfl
  | c :: rest, cache, log => by
      obtain ⟨houtcome, hstate⟩ := outcome_state_eq c cache log
      rw [trimWhile, evaluateWhile, evaluateWhile, runFrom_bind, runFrom_bind, evaluate_trim c]
      rw [← houtcome, ← hstate]
      cases hmet : ((evaluate comparator data c).runFrom cache log).outcome with
      | error fault => rfl
      | ok met =>
          by_cases hgoing : met = going
          · rw [if_pos (by rw [hgoing])]
            dsimp only
            rw [if_pos hgoing, if_pos hgoing]
            exact evaluateWhile_trim going rest _ _
          · dsimp only
            rw [if_neg hgoing, if_neg hgoing]

end

/-! ### Meaning -/

mutual

/-- Whether a condition is met, where it is known which leaves are. -/
def meaning (met : Leaf → Bool) : Condition → Bool
  | .leaf l => met l
  | .allOf children => meaningOfAll met children
  | .anyOf children => meaningOfAny met children

def meaningOfAll (met : Leaf → Bool) : List Condition → Bool
  | [] => true
  | c :: rest => meaning met c && meaningOfAll met rest

def meaningOfAny (met : Leaf → Bool) : List Condition → Bool
  | [] => false
  | c :: rest => meaning met c || meaningOfAny met rest

end

mutual

def EveryLeaf (p : Leaf → Prop) : Condition → Prop
  | .leaf l => p l
  | .allOf children => EveryLeafOf p children
  | .anyOf children => EveryLeafOf p children

def EveryLeafOf (p : Leaf → Prop) : List Condition → Prop
  | [] => True
  | c :: rest => EveryLeaf p c ∧ EveryLeafOf p rest

end

variable {met : Leaf → Bool} {p : Leaf → Prop}

theorem meaningOfAll_eq_true {cs : List Condition} :
    meaningOfAll met cs = true ↔ ∀ c ∈ cs, c.meaning met = true := by
  induction cs with
  | nil => simp [meaningOfAll]
  | cons c rest ih => rw [meaningOfAll, Bool.and_eq_true, ih, List.forall_mem_cons]

theorem meaningOfAny_eq_true {cs : List Condition} :
    meaningOfAny met cs = true ↔ ∃ c ∈ cs, c.meaning met = true := by
  induction cs with
  | nil => simp [meaningOfAny]
  | cons c rest ih => rw [meaningOfAny, Bool.or_eq_true, ih, List.exists_mem_cons_iff]

theorem everyLeafOf_iff {cs : List Condition} :
    EveryLeafOf p cs ↔ ∀ c ∈ cs, c.EveryLeaf p := by
  induction cs with
  | nil => simp [EveryLeafOf]
  | cons c rest ih => rw [EveryLeafOf, ih, List.forall_mem_cons]

mutual

theorem isPlain_iff : ∀ c : Condition, c.IsPlain ↔ c.EveryLeaf fun l => l.operand.IsPlain
  | .leaf _ => Iff.rfl
  | .allOf children | .anyOf children => arePlain_iff children

theorem arePlain_iff : ∀ cs : List Condition,
    ArePlain cs ↔ EveryLeafOf (fun l => l.operand.IsPlain) cs
  | [] => Iff.rfl
  | c :: rest => and_congr (isPlain_iff c) (arePlain_iff rest)

end

mutual

/-- A condition whose leaves all have an answer has the answer that is made of theirs:
induction on the condition, from every cache of plain lists. -/
theorem evaluate_ends : ∀ (c : Condition), c.IsPlain →
    c.EveryLeaf (fun l => ∃ met, l.alone comparator data = .ok met) →
      ∀ cache : SetCache, cache.IsPlain →
        (evaluate comparator data c).Ends cache fun outcome cache' =>
          outcome = .ok (c.meaning (Leaf.isMet comparator data)) ∧ cache'.IsPlain
  | .leaf l, hplain, hleaf, cache, hcache => by
      obtain ⟨met, hmet⟩ := hleaf
      have hends := (Leaf.evaluate_steady comparator data hplain).ends SetCache.isPlain_empty hcache
      refine hends.mono ?_
      rintro outcome cache' ⟨rfl, hcache'⟩
      refine ⟨?_, hcache'⟩
      rw [meaning, Leaf.isMet, hmet]
      exact hmet
  | .allOf children, hplain, hleaves, cache, hcache =>
      evaluateAll_ends children hplain hleaves cache hcache
  | .anyOf children, hplain, hleaves, cache, hcache =>
      evaluateAny_ends children hplain hleaves cache hcache

theorem evaluateAll_ends : ∀ (cs : List Condition), ArePlain cs →
    EveryLeafOf (fun l => ∃ met, l.alone comparator data = .ok met) cs →
      ∀ cache : SetCache, cache.IsPlain →
        (evaluateAll comparator data cs).Ends cache fun outcome cache' =>
          outcome = .ok (meaningOfAll (Leaf.isMet comparator data) cs) ∧ cache'.IsPlain
  | [], _, _, _, hcache => .pure ⟨rfl, hcache⟩
  | c :: rest, hplain, hleaves, cache, hcache => by
      refine .bind_ok (evaluate_ends c hplain.1 hleaves.1 cache hcache) fun cache' hcache' => ?_
      rw [meaningOfAll]
      cases c.meaning (Leaf.isMet comparator data) with
      | false => exact .pure ⟨rfl, hcache'⟩
      | true => exact evaluateAll_ends rest hplain.2 hleaves.2 cache' hcache'

theorem evaluateAny_ends : ∀ (cs : List Condition), ArePlain cs →
    EveryLeafOf (fun l => ∃ met, l.alone comparator data = .ok met) cs →
      ∀ cache : SetCache, cache.IsPlain →
        (evaluateAny comparator data cs).Ends cache fun outcome cache' =>
          outcome = .ok (meaningOfAny (Leaf.isMet comparator data) cs) ∧ cache'.IsPlain
  | [], _, _, _, hcache => .pure ⟨rfl, hcache⟩
  | c :: rest, hplain, hleaves, cache, hcache => by
      refine .bind_ok (evaluate_ends c hplain.1 hleaves.1 cache hcache) fun cache' hcache' => ?_
      rw [meaningOfAny]
      cases c.meaning (Leaf.isMet comparator data) with
      | true => exact .pure ⟨rfl, hcache'⟩
      | false => exact evaluateAny_ends rest hplain.2 hleaves.2 cache' hcache'

end

/-! ### Rearrangements -/

/-- Conditions that differ in how children are arranged: in their order, in how often they
stand, and in nodes of one kind that stand one in the other. -/
inductive Rearranged : Condition → Condition → Prop
  | refl (c : Condition) : Rearranged c c
  | symm {c d : Condition} : Rearranged c d → Rearranged d c
  | trans {c d e : Condition} : Rearranged c d → Rearranged d e → Rearranged c e
  | child (k : Connective) {c d : Condition} (rest : List Condition) :
      Rearranged c d → Rearranged (k.node (c :: rest)) (k.node (d :: rest))
  | permuted (k : Connective) {cs ds : List Condition} :
      cs.Perm ds → Rearranged (k.node cs) (k.node ds)
  | repeated (k : Connective) {c : Condition} {cs : List Condition} :
      c ∈ cs → Rearranged (k.node (c :: cs)) (k.node cs)
  | flattened (k : Connective) (cs ds : List Condition) :
      Rearranged (k.node (k.node cs :: ds)) (k.node (cs ++ ds))

theorem everyLeaf_node (k : Connective) (cs : List Condition) :
    (k.node cs).EveryLeaf p ↔ ∀ c ∈ cs, c.EveryLeaf p := by
  cases k <;> exact everyLeafOf_iff

theorem meaning_allOf {cs : List Condition} :
    (Connective.and.node cs).meaning met = true ↔ ∀ c ∈ cs, c.meaning met = true :=
  meaningOfAll_eq_true

theorem meaning_anyOf {cs : List Condition} :
    (Connective.or.node cs).meaning met = true ↔ ∃ c ∈ cs, c.meaning met = true :=
  meaningOfAny_eq_true

theorem Rearranged.everyLeaf {c d : Condition} (h : Rearranged c d) :
    c.EveryLeaf p ↔ d.EveryLeaf p := by
  induction h with
  | refl c => rfl
  | symm _ ih => exact ih.symm
  | trans _ _ ih ih' => exact ih.trans ih'
  | child k rest _ ih =>
      rw [everyLeaf_node, everyLeaf_node, List.forall_mem_cons, List.forall_mem_cons, ih]
  | permuted k hperm => simp only [everyLeaf_node, hperm.mem_iff]
  | repeated k hmem =>
      rw [everyLeaf_node, everyLeaf_node, List.forall_mem_cons]
      exact and_iff_right_of_imp fun h => h _ hmem
  | flattened k cs ds =>
      rw [everyLeaf_node, everyLeaf_node, List.forall_mem_cons, everyLeaf_node,
        List.forall_mem_append]

/-- Rearranged conditions have the same meaning: one case for each way to rearrange, where
a node is read as "for all children" or "for some child". -/
theorem Rearranged.meaning {c d : Condition} (h : Rearranged c d) :
    c.meaning met = d.meaning met := by
  induction h with
  | refl c => rfl
  | symm _ ih => exact ih.symm
  | trans _ _ ih ih' => exact ih.trans ih'
  | child k rest _ ih =>
      rw [Bool.eq_iff_iff]
      cases k with
      | and => rw [meaning_allOf, meaning_allOf, List.forall_mem_cons, List.forall_mem_cons, ih]
      | or =>
          rw [meaning_anyOf, meaning_anyOf, List.exists_mem_cons_iff, List.exists_mem_cons_iff,
            ih]
  | permuted k hperm =>
      rw [Bool.eq_iff_iff]
      cases k with
      | and => simp only [meaning_allOf, hperm.mem_iff]
      | or => simp only [meaning_anyOf, hperm.mem_iff]
  | repeated k hmem =>
      rw [Bool.eq_iff_iff]
      cases k with
      | and =>
          rw [meaning_allOf, meaning_allOf, List.forall_mem_cons]
          exact and_iff_right_of_imp fun h => h _ hmem
      | or =>
          rw [meaning_anyOf, meaning_anyOf, List.exists_mem_cons_iff]
          exact or_iff_right_of_imp fun h => ⟨_, hmem, h⟩
  | flattened k cs ds =>
      rw [Bool.eq_iff_iff]
      cases k with
      | and =>
          rw [meaning_allOf, meaning_allOf, List.forall_mem_cons, meaning_allOf,
            List.forall_mem_append]
      | or =>
          rw [meaning_anyOf, meaning_anyOf, List.exists_mem_cons_iff, meaning_anyOf]
          simp only [List.mem_append, or_and_right, exists_or]

/-- Evaluation computes the meaning of a condition. The children that are not reached make
no difference to how it ends, to the sets or to the log. Where all operand lists are
plain and every leaf has an answer alone, the answer of the condition, and of all that it
can be rearranged to, is what the answers of the leaves make it. -/
theorem evaluate_meaning (comparator : Comparator) (data : Value) (c : Condition) :
    (∀ cache log, (evaluate comparator data (trim comparator data c cache)).runFrom cache log =
      (evaluate comparator data c).runFrom cache log) ∧
    (c.IsPlain → c.EveryLeaf (fun l => ∃ met, l.alone comparator data = .ok met) →
      ∀ d, Rearranged c d → ∀ cache : SetCache, cache.IsPlain →
        (evaluate comparator data d).Ends cache fun outcome cache' =>
          outcome = .ok (c.meaning (Leaf.isMet comparator data)) ∧ cache'.IsPlain) := by
  refine ⟨evaluate_trim c, fun hplain hleaves d hd cache hcache => ?_⟩
  rw [hd.meaning]
  refine evaluate_ends d ?_ (hd.everyLeaf.mp hleaves) cache hcache
  rw [isPlain_iff] at hplain ⊢
  exact hd.everyLeaf.mp hplain

/-- Two leaves, of which one stands in a node of its own kind and the other twice. -/
theorem evaluate_meaning_rearranged :
    let data : Value := .object [("load", .int 30), ("shift", .int 2)]
    let busy : Condition := .leaf ⟨"load", .gt, .literal (.int 20)⟩
    let late : Condition := .leaf ⟨"shift", .isIn, .literal (.list [.int 2])⟩
    (evaluate ⟨.int 1⟩ data (.allOf [late, busy])).Ends .empty fun outcome _ =>
      outcome = .ok true := by
  intro data busy late
  have hplain : (Condition.allOf [.allOf [busy], late, late]).IsPlain := by
    simp [IsPlain, ArePlain, busy, late, Operand.IsPlain, Value.items?, Value.IsKeyed]
  have hleaves : (Condition.allOf [.allOf [busy], late, late]).EveryLeaf
      fun l => ∃ met, l.alone ⟨.int 1⟩ data = .ok met := by
    have hbusy : ∃ met, (⟨"load", .gt, .literal (.int 20)⟩ : Leaf).alone ⟨.int 1⟩ data = .ok met :=
      ⟨true, by decide +kernel⟩
    have hlate : ∃ met, (⟨"shift", .isIn, .literal (.list [.int 2])⟩ : Leaf).alone
        ⟨.int 1⟩ data = .ok met := ⟨true, by decide +kernel⟩
    exact ⟨⟨hbusy, trivial⟩, hlate, hlate, trivial⟩
  have hrearranged : Rearranged (.allOf [.allOf [busy], late, late]) (.allOf [late, busy]) := by
    have hflat : Rearranged (.allOf [.allOf [busy], late, late]) (.allOf [busy, late, late]) :=
      .flattened .and [busy] [late, late]
    have hperm : Rearranged (.allOf [busy, late, late]) (.allOf [late, late, busy]) :=
      .permuted .and (by simpa using @List.perm_append_comm Condition [busy] [late, late])
    have honce : Rearranged (.allOf [late, late, busy]) (.allOf [late, busy]) :=
      .repeated .and (by simp)
    exact (hflat.trans hperm).trans honce
  refine ((evaluate_meaning ⟨.int 1⟩ data _).2 hplain hleaves _ hrearranged .empty
    SetCache.isPlain_empty).mono ?_
  rintro outcome _ ⟨rfl, -⟩
  decide +kernel

end Condition

end AlertRules
