import Mathlib.Algebra.Group.Nat.Defs
import AlertRules.Condition.Limits
import AlertRules.Proofs.Condition.Document

/-!
The shape of a condition, and what the limits say about it.

A condition has a height, the number of levels below its root, and its nodes
have children. Limits are kept at a level exactly where level and height
together are within the depth and every node is within the breadth
(`Limits.check_eq_ok_iff`). The level moves as the check goes down, and what
does not is the sum of the level and the height that is left: that of a node
is that of its tallest child, one level further down. Within limits a
condition has no more leaves than a tree of this depth with every node as
broad as it may be (`leaves_le`), which bounds what its evaluation may cost.

The check works on outlines, and a document and the condition that is read
from it have one outline. So the document is checked as the condition is, and
before anything is read.
-/

namespace AlertRules

namespace Condition

mutual

def height : Condition → Nat
  | .leaf _ => 0
  | .allOf children => tallest children + 1
  | .anyOf children => tallest children + 1

def tallest : List Condition → Nat
  | [] => 0
  | c :: rest => max (height c) (tallest rest)

end

mutual

def leaves : Condition → Nat
  | .leaf _ => 1
  | .allOf children => leavesOf children
  | .anyOf children => leavesOf children

def leavesOf : List Condition → Nat
  | [] => 0
  | c :: rest => leaves c + leavesOf rest

end

mutual

def EveryNode (p : List Condition → Prop) : Condition → Prop
  | .leaf _ => True
  | .allOf children => p children ∧ EveryNodeOf p children
  | .anyOf children => p children ∧ EveryNodeOf p children

/-- Whether something holds of the children of every node in several
conditions. -/
def EveryNodeOf (p : List Condition → Prop) : List Condition → Prop
  | [] => True
  | c :: rest => EveryNode p c ∧ EveryNodeOf p rest

end

theorem height_node (connective : Connective) (children : List Condition) :
    (connective.node children).height = tallest children + 1 := by
  cases connective <;> rfl

theorem everyNode_node {p : List Condition → Prop} (connective : Connective)
    (children : List Condition) :
    (connective.node children).EveryNode p ↔ p children ∧ EveryNodeOf p children := by
  cases connective <;> rfl

mutual

theorem everyNode_and {p q : List Condition → Prop} : ∀ c : Condition,
    c.EveryNode (fun children => p children ∧ q children) ↔ c.EveryNode p ∧ c.EveryNode q
  | .leaf _ => (and_self_iff).symm
  | .allOf children | .anyOf children => by
      rw [EveryNode, EveryNode, EveryNode, everyNodeOf_and children]
      exact and_and_and_comm

theorem everyNodeOf_and {p q : List Condition → Prop} : ∀ cs : List Condition,
    EveryNodeOf (fun children => p children ∧ q children) cs ↔
      EveryNodeOf p cs ∧ EveryNodeOf q cs
  | [] => (and_self_iff).symm
  | c :: rest => by
      rw [EveryNodeOf, EveryNodeOf, EveryNodeOf, everyNode_and c, everyNodeOf_and rest]
      exact and_and_and_comm

end

mutual

/-- No node of a condition that can be read is without children. -/
theorem everyNode_of_isValid : ∀ c : Condition, c.IsValid → c.EveryNode (· ≠ [])
  | .leaf _, _ => trivial
  | .allOf children, h | .anyOf children, h => ⟨h.1, everyNodeOf_of_areValid children h.2⟩

theorem everyNodeOf_of_areValid : ∀ cs : List Condition, AreValid cs → EveryNodeOf (· ≠ []) cs
  | [], _ => trivial
  | c :: rest, h => ⟨everyNode_of_isValid c h.1, everyNodeOf_of_areValid rest h.2⟩

end

/-- The children of a node are not too tall if none of them is. -/
theorem tallest_le {children : List Condition} (hne : children ≠ []) (level limit : Int) :
    level + tallest children ≤ limit ↔ ∀ c ∈ children, level + c.height ≤ limit := by
  induction children with
  | nil => exact absurd rfl hne
  | cons c rest ih =>
      rw [tallest, List.forall_mem_cons]
      cases rest with
      | nil =>
          simp only [tallest, List.not_mem_nil, false_imp_iff, implies_true, and_true]
          omega
      | cons second rest =>
          rw [← ih (List.cons_ne_nil second rest)]
          omega

/-- The children of a node have leaves for a level less than the node has. -/
theorem leavesOf_le_pow {children : List Condition} {breadth depth : Nat}
    (hall : ∀ level, tallest children ≤ level →
      leavesOf children ≤ children.length * breadth ^ level)
    (hheight : tallest children + 1 ≤ depth) (hlength : children.length ≤ breadth) :
    leavesOf children ≤ breadth ^ depth := by
  cases depth with
  | zero => exact absurd hheight (Nat.not_succ_le_zero _)
  | succ level =>
      calc leavesOf children
          ≤ children.length * breadth ^ level := hall level (Nat.le_of_succ_le_succ hheight)
        _ ≤ breadth * breadth ^ level := Nat.mul_le_mul_right _ hlength
        _ = breadth ^ (level + 1) := Nat.pow_succ'.symm

mutual

/-- A condition of some depth and breadth has as many leaves as a full tree of them,
or fewer. -/
theorem leaves_le {breadth : Nat} (hpos : 1 ≤ breadth) : ∀ (c : Condition) (depth : Nat),
    c.height ≤ depth → c.EveryNode (fun children => (children.length : Int) ≤ breadth) →
      c.leaves ≤ breadth ^ depth
  | .leaf _, _, _, _ => Nat.pow_pos hpos
  | .allOf children, _, hheight, hbreadth | .anyOf children, _, hheight, hbreadth =>
      leavesOf_le_pow (fun level h => leavesOf_le hpos children level h hbreadth.2) hheight
        (Int.ofNat_le.mp hbreadth.1)

theorem leavesOf_le {breadth : Nat} (hpos : 1 ≤ breadth) : ∀ (cs : List Condition) (depth : Nat),
    tallest cs ≤ depth → EveryNodeOf (fun children => (children.length : Int) ≤ breadth) cs →
      leavesOf cs ≤ cs.length * breadth ^ depth
  | [], _, _, _ => Nat.zero_le _
  | c :: rest, depth, hheight, hbreadth => by
      obtain ⟨hfirst, hrest⟩ := Nat.max_le.mp hheight
      have hleaves := leaves_le hpos c depth hfirst hbreadth.1
      have hmore := leavesOf_le hpos rest depth hrest hbreadth.2
      rw [leavesOf, List.length_cons, Nat.succ_mul]
      omega

end

theorem length_outlines (children : List Condition) :
    (outlines children).length = children.length := by
  induction children with
  | nil => rfl
  | cons c rest ih => rw [outlines, List.length_cons, List.length_cons, ih]

end Condition

namespace Limits

open Condition

/-- The fault where a limit is passed. It names the limit, which takes a limit with a
text. -/
def refusal (limit : Value) (passed : String → ComplexityError) : Fault :=
  match limit.display with
  | .ok text => .complexity (passed text)
  | .error fault => fault

/-- The faults of a condition that goes beyond limits. -/
inductive Exceeded (limits : Limits) : Fault → Prop
  | depth : Exceeded limits (refusal limits.depth .tooDeep)
  | breadth : Exceeded limits (refusal limits.breadth .tooWide)

theorem error_of_display (limit : Value) (passed : String → ComplexityError) :
    (limit.display >>= fun text => (.error (.complexity (passed text)) : Except Fault Unit)) =
      .error (refusal limit passed) := by
  unfold refusal
  cases limit.display <;> rfl

theorem exceeds_int (limit n : Int) : exceeds (.int limit) n = .ok (decide (limit < n)) := by
  rw [exceeds, Value.less_int]

variable {depth breadth level : Int}

theorem checkLevel_int : checkLevel ⟨.int depth, .int breadth⟩ level =
    if depth < level then .error (refusal (.int depth) .tooDeep) else .ok () := by
  simp only [checkLevel, exceeds_int, error_of_display]
  simp only [bind, Except.bind, decide_eq_true_eq]

/-- A node is checked for its own level and breadth, and then child by child. -/
theorem check_node (connective : Connective) {children : List Condition} (hne : children ≠ []) :
    check ⟨.int depth, .int breadth⟩ level (.node connective (outlines children)) =
      if depth < level then .error (refusal (.int depth) .tooDeep)
      else if breadth < children.length then .error (refusal (.int breadth) .tooWide)
      else checkAll ⟨.int depth, .int breadth⟩ (level + 1) (outlines children) := by
  obtain ⟨c, rest, rfl⟩ := List.exists_cons_of_ne_nil hne
  rw [outlines, check, checkLevel_int]
  simp only [List.length_cons, length_outlines, exceeds_int, error_of_display]
  split
  · rfl
  · simp only [bind, Except.bind, decide_eq_true_eq]

/-- A node that may have its children: it has some, and not too many. -/
def IsNarrow (breadth : Int) (children : List Condition) : Prop :=
  children ≠ [] ∧ (children.length : Int) ≤ breadth

theorem check_node_eq_ok (connective : Connective) {children : List Condition}
    (hall : checkAll ⟨.int depth, .int breadth⟩ (level + 1) (outlines children) = .ok () ↔
      (∀ c ∈ children, level + 1 + c.height ≤ depth) ∧
        EveryNodeOf (IsNarrow breadth) children) :
    check ⟨.int depth, .int breadth⟩ level (connective.node children).outline = .ok () ↔
      level + (connective.node children).height ≤ depth ∧
        (connective.node children).EveryNode (IsNarrow breadth) := by
  rw [outline_node, height_node, everyNode_node]
  by_cases hne : children = []
  · subst hne
    rw [outlines, check, checkLevel_int]
    split <;> simp [bind, Except.bind, IsNarrow]
  · rw [check_node connective hne]
    have htallest := tallest_le hne (level + 1) depth
    split
    next hdeep =>
        refine ⟨nofun, fun ⟨hheight, _⟩ => ?_⟩
        omega
    next hlevel =>
        split
        next hwide =>
            refine ⟨nofun, fun ⟨_, hnarrow, _⟩ => ?_⟩
            exact absurd hnarrow.2 (Int.not_le.mpr hwide)
        next hbreadth =>
            have hnarrow : IsNarrow breadth children := ⟨hne, Int.not_lt.mp hbreadth⟩
            have hheight : level + ((tallest children + 1 : Nat) : Int) ≤ depth ↔
                level + 1 + tallest children ≤ depth := by omega
            rw [hall, ← htallest, hheight]
            exact and_congr_right fun _ => (and_iff_right hnarrow).symm

theorem seq_eq_ok {first second : Except Fault Unit} :
    (first >>= fun _ => second) = .ok () ↔ first = .ok () ∧ second = .ok () := by
  cases first with
  | ok u => exact (and_iff_right rfl).symm
  | error fault => exact ⟨nofun, nofun⟩

mutual

/-- The limits are kept exactly where no leaf is too deep and no node too wide:
induction on the condition, at every level. -/
theorem check_eq_ok_iff : ∀ (c : Condition) (level : Int),
    check ⟨.int depth, .int breadth⟩ level c.outline = .ok () ↔
      level + c.height ≤ depth ∧ c.EveryNode (IsNarrow breadth)
  | .leaf _, level => by
      rw [Condition.outline, check, checkLevel_int]
      simp only [height, EveryNode, and_true]
      split
      · simp only [reduceCtorEq, false_iff]
        omega
      · simp only [true_iff]
        omega
  | .allOf children, level =>
      check_node_eq_ok .and (checkAll_eq_ok_iff children (level + 1))
  | .anyOf children, level =>
      check_node_eq_ok .or (checkAll_eq_ok_iff children (level + 1))

theorem checkAll_eq_ok_iff : ∀ (children : List Condition) (level : Int),
    checkAll ⟨.int depth, .int breadth⟩ level (outlines children) = .ok () ↔
      (∀ c ∈ children, level + c.height ≤ depth) ∧ EveryNodeOf (IsNarrow breadth) children
  | [], level => by simp [outlines, checkAll, EveryNodeOf]
  | c :: rest, level => by
      rw [outlines, checkAll, seq_eq_ok, check_eq_ok_iff c level, checkAll_eq_ok_iff rest level,
        List.forall_mem_cons, EveryNodeOf]
      exact and_and_and_comm

end

/-- What a node is refused for, if it is not refused for a child. -/
theorem exceeded_of_check_node (connective : Connective) {children : List Condition}
    (hne : children ≠ []) (hall : ∀ {fault}, checkAll ⟨.int depth, .int breadth⟩ (level + 1)
      (outlines children) = .error fault → Exceeded ⟨.int depth, .int breadth⟩ fault)
    {fault : Fault} (h : check ⟨.int depth, .int breadth⟩ level
      (.node connective (outlines children)) = .error fault) :
    Exceeded ⟨.int depth, .int breadth⟩ fault := by
  rw [check_node connective hne] at h
  split at h
  · cases h
    exact .depth
  · split at h
    · cases h
      exact .breadth
    · exact hall h

mutual

/-- A condition whose nodes have children is refused for its depth or its breadth. -/
theorem exceeded_of_check : ∀ (c : Condition) (level : Int), c.EveryNode (· ≠ []) →
    ∀ {fault}, check ⟨.int depth, .int breadth⟩ level c.outline = .error fault →
      Exceeded ⟨.int depth, .int breadth⟩ fault
  | .leaf _, level, _, fault, h => by
      rw [Condition.outline, check, checkLevel_int] at h
      split at h
      · cases h
        exact .depth
      · cases h
  | .allOf children, level, hfilled, _, h =>
      exceeded_of_check_node .and hfilled.1 (exceeded_of_checkAll children (level + 1) hfilled.2) h
  | .anyOf children, level, hfilled, _, h =>
      exceeded_of_check_node .or hfilled.1 (exceeded_of_checkAll children (level + 1) hfilled.2) h

theorem exceeded_of_checkAll : ∀ (children : List Condition) (level : Int),
    EveryNodeOf (· ≠ []) children → ∀ {fault},
      checkAll ⟨.int depth, .int breadth⟩ level (outlines children) = .error fault →
        Exceeded ⟨.int depth, .int breadth⟩ fault
  | [], _, _, _, h => by cases h
  | c :: rest, level, hfilled, fault, h => by
      rw [outlines, checkAll] at h
      cases hfirst : check ⟨.int depth, .int breadth⟩ level c.outline with
      | error fault' =>
          rw [hfirst] at h
          cases h
          exact exceeded_of_check c level hfilled.1 hfirst
      | ok u =>
          rw [hfirst] at h
          exact exceeded_of_checkAll rest level hfilled.2 h

end

end Limits

/-! ### Documents -/

/-- A document and the condition it is read as are checked alike. The limits are kept
exactly where no leaf is too deep and no node too wide, and nothing else is found
wrong with what can be read. -/
theorem check_exact {v : Value} {c : Condition} (h : Condition.parse v = .ok c)
    (depth breadth level : Int) :
    let limits : Limits := ⟨.int depth, .int breadth⟩
    limits.check level v.outline = limits.check level c.outline ∧
      (limits.check level v.outline = .ok () ↔
        level + c.height ≤ depth ∧
          c.EveryNode fun children => (children.length : Int) ≤ breadth) ∧
      ∀ fault, limits.check level v.outline = .error fault → limits.Exceeded fault := by
  intro limits
  obtain ⟨hvalid, houtline⟩ := Condition.of_parse v h
  have hfilled := Condition.everyNode_of_isValid c hvalid
  have hnarrow : c.EveryNode (Limits.IsNarrow breadth) ↔
      c.EveryNode fun children => (children.length : Int) ≤ breadth :=
    (Condition.everyNode_and c).trans (and_iff_right hfilled)
  rw [houtline]
  refine ⟨rfl, ?_, fun fault => Limits.exceeded_of_check c level hfilled⟩
  rw [Limits.check_eq_ok_iff, hnarrow]

/-- Three nodes one in the other keep a depth of three, and not one of two. -/
theorem check_exact_nested :
    let leaf : Value :=
      .object [("field", .text "load"), ("operator", .text ">"), ("value", .int 1)]
    let v : Value := .object
      [("AND", .list [.object [("OR", .list [.object [("AND", .list [leaf])]])]])]
    let c : Condition := .allOf [.anyOf [.allOf [.leaf ⟨"load", .gt, .literal (.int 1)⟩]]]
    Condition.parse v = .ok c ∧ (⟨.int 3, .int 1⟩ : Limits).check 0 v.outline = .ok () ∧
      (⟨.int 2, .int 1⟩ : Limits).check 0 v.outline ≠ .ok () := by
  intro leaf v c
  have hparse : Condition.parse v = .ok c := rfl
  have hheight : c.height = 3 := rfl
  have hbreadth : c.EveryNode fun children => (children.length : Int) ≤ 1 := by
    simp [c, Condition.EveryNode, Condition.EveryNodeOf]
  refine ⟨hparse, ?_, fun hkept => ?_⟩
  · refine (check_exact hparse 3 1 0).2.1.mpr ⟨?_, hbreadth⟩
    rw [hheight]
    decide
  · have hdeep := ((check_exact hparse 2 1 0).2.1.mp hkept).1
    rw [hheight] at hdeep
    exact absurd hdeep (by decide)

end AlertRules
