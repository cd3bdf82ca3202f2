import AlertRules.Comparison.Membership
import AlertRules.Proofs.Value.Shown
import AlertRules.Proofs.Value.Sameness

/-!
The scan of a list.

A scan takes the key of a value and goes through a list until it finds it.
It fails where it needs the key of a container without text: of the value
itself, or of a member before the one that is found. A list that has a
text has no such members, so a scan of it fails for want of the value's
key only, and otherwise says whether the key is among those of the list
(`scan_of_hasText`).
-/

namespace AlertRules

namespace Value

variable {v : Value} {items : List Value}

theorem key_of_isScalar (h : v.isScalar = true) : v.key = .ok (.ofValue v) := by
  rw [key, h]
  rfl

theorem key_of_hasText (h : v.hasText = true) : v.key = .ok (.ofValue v) := by
  rw [key, h, Bool.or_true]
  rfl

theorem key_of_not_hasText (hscalar : v.isScalar = false) (h : v.hasText = false) :
    v.key = .error .unwritable := by
  rw [key, hscalar, h]
  rfl

/-- What has parts and no text has no key. -/
def IsUnkeyed (v : Value) : Prop := v.isScalar = false ∧ v.hasText = false

theorem key_cases (v : Value) :
    v.key = .ok (.ofValue v) ∧ ¬v.IsUnkeyed ∨ v.key = .error .unwritable ∧ v.IsUnkeyed := by
  unfold IsUnkeyed key
  cases v.isScalar <;> cases v.hasText <;> simp

theorem eq_of_key {key : MemberKey} (h : v.key = .ok key) : .ofValue v = key := by
  obtain ⟨hkey, -⟩ | ⟨hkey, -⟩ := v.key_cases
  · exact Except.ok.inj (hkey.symm.trans h)
  · cases hkey.symm.trans h

theorem fault_of_key {fault : Fault} (h : v.key = .error fault) : fault = .unwritable := by
  unfold key at h
  split at h
  · cases h
  · exact (Except.error.inj h).symm

theorem keys_of_hasText (h : (Value.list items).hasText = true) :
    keys items = .ok (items.map MemberKey.ofValue) := by
  rw [hasText_list] at h
  induction items with
  | nil => rfl
  | cons v items ih =>
      rw [keys, key_of_hasText (h v (by simp)), ih fun w hw => h w (List.mem_cons_of_mem v hw)]
      rfl

end Value

theorem memberOf_cons {key : MemberKey} {v : Value} {items : List Value}
    (h : v.key = .ok (.ofValue v)) :
    memberOf key (v :: items) =
      if (MemberKey.ofValue v).same key then .ok true else memberOf key items := by
  rw [memberOf, h]
  rfl

theorem answer_of_memberOf {key : MemberKey} {items : List Value} {answer : Bool}
    (h : memberOf key items = .ok answer) :
    answer = items.any fun v => (MemberKey.ofValue v).same key := by
  induction items with
  | nil => exact (Except.ok.inj h).symm
  | cons v items ih =>
      obtain ⟨hkey, -⟩ | ⟨hkey, -⟩ := v.key_cases
      · rw [memberOf_cons hkey] at h
        rw [List.any_cons]
        split at h
        next hsame => rw [hsame, ← Except.ok.inj h, Bool.true_or]
        next hsame => rw [Bool.eq_false_iff.mpr hsame, Bool.false_or, ih h]
      · rw [memberOf, hkey] at h
        cases h

theorem fault_of_memberOf {key : MemberKey} {items : List Value} {fault : Fault}
    (h : memberOf key items = .error fault) :
    fault = .unwritable ∧ ∃ v ∈ items, v.IsUnkeyed := by
  induction items with
  | nil => cases h
  | cons v items ih =>
      obtain ⟨hkey, -⟩ | ⟨hkey, hunkeyed⟩ := v.key_cases
      · rw [memberOf_cons hkey] at h
        split at h
        · cases h
        · obtain ⟨hfault, w, hw, hunkeyed⟩ := ih h
          exact ⟨hfault, w, List.mem_cons_of_mem v hw, hunkeyed⟩
      · rw [memberOf, hkey] at h
        exact ⟨(Except.error.inj h).symm, v, List.mem_cons_self, hunkeyed⟩

/-- Going through a list fails at the first member without key, unless the key was found
before it. -/
theorem exists_memberOf_iff {key : MemberKey} {items : List Value} :
    (∃ answer, memberOf key items = .ok answer) ↔
      ¬∃ before v after, items = before ++ v :: after ∧ memberOf key before = .ok false ∧
        v.IsUnkeyed := by
  induction items with
  | nil => simp [memberOf]
  | cons v items ih =>
      obtain ⟨hkey, hkeyed⟩ | ⟨hkey, hunkeyed⟩ := v.key_cases
      · rw [memberOf_cons hkey]
        split
        next hsame =>
          refine iff_of_true ⟨true, rfl⟩ ?_
          rintro ⟨_ | ⟨u, before⟩, w, after, heq, hbefore, hw⟩
          · obtain ⟨rfl, -⟩ := List.cons.inj heq
            exact hkeyed hw
          · obtain ⟨rfl, -⟩ := List.cons.inj heq
            rw [memberOf_cons hkey, if_pos hsame] at hbefore
            cases hbefore
        next hsame =>
          rw [ih, not_iff_not]
          constructor
          · rintro ⟨before, w, after, rfl, hbefore, hw⟩
            refine ⟨v :: before, w, after, rfl, ?_, hw⟩
            rw [memberOf_cons hkey, if_neg hsame, hbefore]
          · rintro ⟨_ | ⟨u, before⟩, w, after, heq, hbefore, hw⟩
            · obtain ⟨rfl, -⟩ := List.cons.inj heq
              exact absurd hw hkeyed
            · obtain ⟨rfl, rfl⟩ := List.cons.inj heq
              rw [memberOf_cons hkey, if_neg hsame] at hbefore
              exact ⟨before, w, after, rfl, hbefore, hw⟩
      · refine iff_of_false ?_ fun h => h ⟨[], v, items, rfl, rfl, hunkeyed⟩
        rw [memberOf, hkey]
        nofun

/-- What a scan of a list says of a value. -/
def scan (actual : Value) (items : List Value) : Except Fault Bool := do
  memberOf (← actual.key) items

variable {key : MemberKey} {actual : Value} {items : List Value}

/-- A list whose members have keys is gone through without a fault. -/
theorem memberOf_of_keys (h : ∀ v ∈ items, v.key = .ok (.ofValue v)) :
    memberOf key items = .ok (items.any fun v => (MemberKey.ofValue v).same key) := by
  induction items with
  | nil => rfl
  | cons v items ih =>
      rw [memberOf, h v (by simp), ih fun w hw => h w (List.mem_cons_of_mem v hw)]
      simp only [bind, Except.bind, List.any_cons]
      cases (MemberKey.ofValue v).same key with
      | true => rfl
      | false => rfl

theorem memberOf_of_hasText (h : (Value.list items).hasText = true) :
    memberOf key items = .ok (items.any fun v => (MemberKey.ofValue v).same key) :=
  memberOf_of_keys fun v hv => Value.key_of_hasText (Value.hasText_list.mp h v hv)

theorem scan_of_key (h : actual.key = .ok key) : scan actual items = memberOf key items := by
  rw [scan, h]
  rfl

theorem scan_of_no_key {fault : Fault} (h : actual.key = .error fault) :
    scan actual items = .error .unwritable := by
  rw [scan, h, Value.fault_of_key h]
  rfl

theorem scan_of_hasText (h : (Value.list items).hasText = true) :
    scan actual items =
      actual.key.map fun key => items.any fun v => (MemberKey.ofValue v).same key := by
  unfold scan
  cases actual.key with
  | error fault => rfl
  | ok key => exact memberOf_of_hasText h

end AlertRules
