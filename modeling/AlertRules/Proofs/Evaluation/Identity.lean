import AlertRules.Execution.Submission
import AlertRules.Proofs.Action
import AlertRules.Proofs.Number.Written
import AlertRules.Proofs.Value.Shown

/-!
What a fingerprint identifies.

A fingerprint is a rule id, and a colon and an entity id if there is an entity.
An entity id is never empty (`EvaluationResult.ne_empty_of_entityId`), so the colon
is there exactly if an entity is. But both ids may have colons of their own, and
a fingerprint does not tell at which of its colons the rule id ends. Where a rule id
is another one, a colon and more, the same fingerprint belongs to two
occurrences if the entity of the shorter id begins with what the longer one
has more. These are all collisions there are
(`EvaluationResult.sharesFingerprint_iff`).
-/

namespace AlertRules

/-! ### Values have names -/

theorem Double.layout_ne_nil (d : Digits) : layout d ≠ [] := by
  unfold layout
  split
  · split <;> simp
  · simp

theorem Double.text_ne_empty (x : Double) : x.text ≠ "" := by
  cases x with
  | nan negative => simp [text]
  | inf negative => cases negative <;> simp [text]
  | finite negative mant shift h =>
      have hbody : (if mant = 0 then ['0', '.', '0'] else layout (shortest mant shift)) ≠ [] := by
        split
        · simp
        · exact layout_ne_nil _
      cases negative <;> simp [text, hbody]

theorem Decimal.pointed_ne_nil {digits : List Char} (h : digits ≠ []) (place : Int) :
    pointed digits place ≠ [] := by
  unfold pointed
  split
  · simp
  · simp
  · split <;> simp [h]

theorem Decimal.text_ne_empty (d : Decimal) : d.text ≠ "" := by
  cases d with
  | finite negative coeff exponent =>
      have hbody := fun place => pointed_ne_nil (Numeral.digitsOf_ne_nil coeff) place
      cases negative <;> simp [text, hbody]
  | inf negative => cases negative <;> simp [text]
  | nan negative signalling payload => cases signalling <;> simp [text]

theorem Value.intText_ne_empty (i : Int) : intText i ≠ "" := by
  have hdigits := Numeral.digitsOf_ne_nil i.natAbs
  unfold intText
  split <;> simp [hdigits]

theorem Value.inspectText_ne_empty (v : Value) : v.inspectText ≠ "" := by
  cases v with
  | null => simp [inspectText]
  | bool b => cases b <;> simp [inspectText, boolName]
  | int i => simpa [inspectText] using intText_ne_empty i
  | float x => simpa [inspectText] using x.text_ne_empty
  | decimal d => simp [inspectText]
  | text s => simp [inspectText, Text.quoted]
  | list items => simp [inspectText]
  | tuple items =>
      match items with
      | [] => simp [inspectText]
      | [item] => simp [inspectText]
      | first :: second :: rest => simp [inspectText]
  | object fields => simp [inspectText]
  | missing => simp [inspectText]

namespace EvaluationResult

theorem entityText?_display {v : Value} {name : Option String} (h : entityText? v = .ok name) :
    name = none ∨ name = some v.displayText ∧ v.displayText ≠ "" := by
  cases v with
  | null => exact .inl (Except.ok.inj h).symm
  | text s =>
      by_cases hs : s = ""
      · simp_all [entityText?]
      · simp_all [entityText?, Value.displayText]
  | decimal d => exact .inr ⟨(Except.ok.inj h).symm, d.text_ne_empty⟩
  | _ =>
      unfold entityText? Value.display at h
      obtain ⟨s, hs, rfl⟩ := map_eq_ok.mp h
      obtain ⟨-, rfl⟩ := Value.written_eq_ok_iff.mp hs
      exact .inr ⟨rfl, Value.inspectText_ne_empty _⟩

theorem ne_empty_of_entityId {r : EvaluationResult} {entity : String}
    (h : r.entityId = .ok (some entity)) : entity ≠ "" := by
  unfold entityId entityOf at h
  cases hmetadata : entityText? (r.metadata.getOrNull "entity_id") with
  | error fault =>
      rw [hmetadata] at h
      cases h
  | ok name =>
      obtain rfl | ⟨rfl, hne⟩ := entityText?_display hmetadata
      · rw [hmetadata] at h
        obtain h | ⟨h, hne⟩ := entityText?_display h
        · cases h
        · cases h
          exact hne
      · rw [hmetadata] at h
        cases h
        exact hne

end EvaluationResult

/-! ### Fingerprints -/

theorem fingerprintOf_some {entity : String} (h : entity ≠ "") (ruleId : String) :
    fingerprintOf ruleId (some entity) = ruleId ++ ":" ++ entity := by
  simp [fingerprintOf, h]

theorem fingerprintOf_append (ruleId gap : String) (entityId : Option String) :
    fingerprintOf (ruleId ++ ":" ++ gap) entityId =
      ruleId ++ ":" ++ fingerprintOf gap entityId := by
  cases entityId with
  | none => rfl
  | some entity =>
      simp only [fingerprintOf]
      split
      · rfl
      · simp only [String.append_assoc]

/-- If a text is parted at a colon and again there or later, it is at one colon, or what
lies between has a colon at either end. -/
theorem exists_gap {a b d e middle : List Char} (hb : b = a ++ middle)
    (hd : ':' :: d = middle ++ ':' :: e) :
    (a = b ∧ d = e) ∨ ∃ gap, b = a ++ ':' :: gap ∧ d = gap ++ ':' :: e := by
  cases middle with
  | nil => exact .inl ⟨by simp [hb], by simpa using hd⟩
  | cons c gap =>
      obtain ⟨rfl, rfl⟩ := List.cons.inj hd
      exact .inr ⟨gap, hb, rfl⟩

/-- Two texts joined with a colon are two others joined with one if they are the same, or
if the joint of the ones lies within a text of the others. -/
theorem append_colon_eq_iff {a b d e : String} :
    a ++ ":" ++ d = b ++ ":" ++ e ↔
      (a = b ∧ d = e) ∨ (∃ gap, b = a ++ ":" ++ gap ∧ d = gap ++ ":" ++ e) ∨
        ∃ gap, a = b ++ ":" ++ gap ∧ e = gap ++ ":" ++ d := by
  constructor
  · intro h
    have hlist : a.toList ++ ':' :: d.toList = b.toList ++ ':' :: e.toList := by
      simpa using congrArg String.toList h
    obtain ⟨middle, hb, hd⟩ | ⟨middle, ha, he⟩ := List.append_eq_append_iff.mp hlist
    · obtain ⟨hab, hde⟩ | ⟨gap, hgap, hrest⟩ := exists_gap hb hd
      · exact .inl ⟨String.toList_inj.mp hab, String.toList_inj.mp hde⟩
      · refine .inr (.inl ⟨String.ofList gap, ?_, ?_⟩)
        · simp [← String.toList_inj, hgap]
        · simp [← String.toList_inj, hrest]
    · obtain ⟨hba, hed⟩ | ⟨gap, hgap, hrest⟩ := exists_gap ha he
      · exact .inl ⟨String.toList_inj.mp hba.symm, String.toList_inj.mp hed.symm⟩
      · refine .inr (.inr ⟨String.ofList gap, ?_, ?_⟩)
        · simp [← String.toList_inj, hgap]
        · simp [← String.toList_inj, hrest]
  · rintro (⟨rfl, rfl⟩ | ⟨gap, rfl, rfl⟩ | ⟨gap, rfl, rfl⟩)
    · rfl
    · simp only [String.append_assoc]
    · simp only [String.append_assoc]

namespace EvaluationResult

/-- Whether two results report the same occurrence: of one rule, about one entity or
both about none. -/
def SameOccurrence (r s : EvaluationResult) : Prop :=
  r.ruleId = s.ruleId ∧ ∃ entity, r.entityId = .ok entity ∧ s.entityId = .ok entity

def SharesFingerprint (r s : EvaluationResult) : Prop :=
  ∃ fingerprint, r.fingerprint = .ok fingerprint ∧ s.fingerprint = .ok fingerprint

/-- Whether the entity of a result begins with what the rule id of another has more than
its own, and goes on with the entity of the other, if that has one. -/
def Shadows (r s : EvaluationResult) : Prop :=
  ∃ gap entity, s.ruleId = r.ruleId ++ ":" ++ gap ∧ s.entityId = .ok entity ∧
    r.entityId = .ok (some (fingerprintOf gap entity))

variable {r s : EvaluationResult}

theorem SharesFingerprint.symm (h : r.SharesFingerprint s) : s.SharesFingerprint r := by
  obtain ⟨fingerprint, hr, hs⟩ := h
  exact ⟨fingerprint, hs, hr⟩

theorem Shadows.ruleId_ne (h : r.Shadows s) : r.ruleId ≠ s.ruleId := by
  obtain ⟨gap, entity, hrule, -⟩ := h
  intro hsame
  have hlength := congrArg String.length (hsame.trans hrule)
  simp only [String.length_append] at hlength
  have : ":".length = 1 := rfl
  omega

theorem fingerprint_of_entity {entity : Option String} (h : r.entityId = .ok entity) :
    r.fingerprint = .ok (fingerprintOf r.ruleId entity) := by
  rw [fingerprint, h]
  rfl

theorem fingerprint_eq_ok_iff {p : String} :
    r.fingerprint = .ok p ↔ ∃ entity, r.entityId = .ok entity ∧ fingerprintOf r.ruleId entity = p :=
  map_eq_ok

theorem Shadows.sharesFingerprint (h : r.Shadows s) : r.SharesFingerprint s := by
  obtain ⟨gap, entity, hrule, hs, hr⟩ := h
  refine ⟨_, fingerprint_of_entity hr, ?_⟩
  rw [fingerprint_of_entity hs, hrule, fingerprintOf_append,
    fingerprintOf_some (ne_empty_of_entityId hr)]

/-- A result without an entity has the fingerprint of one with an entity if it is
shadowed. -/
theorem Shadows.of_none {entity : String} (hr : r.entityId = .ok (some entity))
    (hs : s.entityId = .ok none) (h : r.ruleId ++ ":" ++ entity = s.ruleId) : r.Shadows s :=
  ⟨entity, none, h.symm, hs, hr⟩

/-- What has an entity is shadowed by what has one and a shorter rule id. -/
theorem Shadows.of_gap {gap d e : String} (hr : r.entityId = .ok (some d))
    (hs : s.entityId = .ok (some e)) (hrule : s.ruleId = r.ruleId ++ ":" ++ gap)
    (hentity : d = gap ++ ":" ++ e) : r.Shadows s := by
  refine ⟨gap, some e, hrule, hs, ?_⟩
  rw [hr, hentity, fingerprintOf_some (ne_empty_of_entityId hs)]

/-- The results with one fingerprint are those of one occurrence, and those of which one
shadows the other. -/
theorem sharesFingerprint_iff (r s : EvaluationResult) :
    r.SharesFingerprint s ↔ r.SameOccurrence s ∨ r.Shadows s ∨ s.Shadows r := by
  constructor
  · rintro ⟨p, hp, hq⟩
    obtain ⟨entity, hr, hp⟩ := fingerprint_eq_ok_iff.mp hp
    obtain ⟨entity', hs, hq⟩ := fingerprint_eq_ok_iff.mp hq
    have h := hp.trans hq.symm
    cases entity with
    | none =>
        cases entity' with
        | none => exact .inl ⟨h, none, hr, hs⟩
        | some e =>
            rw [fingerprintOf_some (ne_empty_of_entityId hs)] at h
            exact .inr (.inr (.of_none hs hr h.symm))
    | some d =>
        rw [fingerprintOf_some (ne_empty_of_entityId hr)] at h
        cases entity' with
        | none => exact .inr (.inl (.of_none hr hs h))
        | some e =>
            rw [fingerprintOf_some (ne_empty_of_entityId hs)] at h
            obtain ⟨hrule, rfl⟩ | ⟨gap, hrule, hd⟩ | ⟨gap, hrule, he⟩ := append_colon_eq_iff.mp h
            · exact .inl ⟨hrule, some d, hr, hs⟩
            · exact .inr (.inl (.of_gap hr hs hrule hd))
            · exact .inr (.inr (.of_gap hs hr hrule he))
  · rintro (⟨hrule, entity, hr, hs⟩ | hshadows | hshadows)
    · refine ⟨_, fingerprint_of_entity hr, ?_⟩
      rw [fingerprint_of_entity hs, hrule]
    · exact hshadows.sharesFingerprint
    · exact hshadows.sharesFingerprint.symm

end EvaluationResult

theorem Submission.fingerprint_ofResult (r : EvaluationResult) :
    (Submission.ofResult r).fingerprint = r.fingerprint.map Value.text := by
  have hcontext : (ofResult r).context? = .ok r.context := by
    unfold context? ofResult
    cases r.context with
    | none => rfl
    | some c => rfl
  have hmetadata : (ofResult r).metadata? = .ok r.metadata := rfl
  have hentity : EvaluationResult.entityOf r.metadata r.context = r.entityId := rfl
  simp only [fingerprint, hcontext, hmetadata, hentity, bind, Except.bind]
  cases hr : r.entityId with
  | error fault =>
      rw [EvaluationResult.fingerprint, hr]
      rfl
  | ok name =>
      rw [EvaluationResult.fingerprint_of_entity hr]
      cases name with
      | none => rfl
      | some entity =>
          have hne := EvaluationResult.ne_empty_of_entityId hr
          simp only [String.isEmpty_iff, hne, if_false]
          rfl

namespace EvaluationResult

/-- Two results have one fingerprint exactly if they report one occurrence, unless one
shadows the other; and it is by the fingerprint that the executor looks for an open
alert. -/
theorem fingerprint_identifies_iff (r s : EvaluationResult) :
    ((Submission.ofResult r).fingerprint = (Submission.ofResult s).fingerprint ↔
        r.fingerprint = s.fingerprint) ∧
      ((r.SharesFingerprint s ↔ r.SameOccurrence s) ↔ ¬ r.Shadows s ∧ ¬ s.Shadows r) := by
  constructor
  · rw [Submission.fingerprint_ofResult, Submission.fingerprint_ofResult]
    cases r.fingerprint <;> cases s.fingerprint <;> simp [Except.map]
  rw [sharesFingerprint_iff]
  constructor
  · intro h
    exact ⟨fun hshadows => hshadows.ruleId_ne (h.mp (.inr (.inl hshadows))).1,
      fun hshadows => hshadows.ruleId_ne (h.mp (.inr (.inr hshadows))).1.symm⟩
  · rintro ⟨hr, hs⟩
    simp [hr, hs]

/-- The result of a rule without name that triggered, about an entity or none. -/
def reported (ruleId : String) (entity : Option String) : EvaluationResult where
  ruleId
  ruleName := none
  triggered := true
  severity := .warning
  matchedCondition := none
  alertTitle := none
  message := none
  actions := none
  metadata := [("entity_id", Value.ofText? entity)]
  evaluatedAt := ⟨2026, 1, 1, 0, 0, 0, 0, some 0⟩
  context := none

/-- A rule about an entity and a rule about none, of one fingerprint. -/
theorem fingerprint_shared :
    let r := reported "a" (some "b")
    let s := reported "a:b" none
    r.SharesFingerprint s ∧ ¬ r.SameOccurrence s := by
  refine ⟨⟨"a:b", by decide +kernel, by decide +kernel⟩, fun h => ?_⟩
  exact absurd h.1 (by decide)

end EvaluationResult

end AlertRules
