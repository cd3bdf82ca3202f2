import AlertRules.Proofs.Action
import AlertRules.Store.Memory
import Mathlib.Data.List.Forall2

/-!
A store that keeps one open alert of a kind.

Alerts are of one kind if they are of one organization and have one
fingerprint. A shared store shows its alerts and promises two things: a
look-up changes none of them, and a new alert is refused if an open one
of its kind is there, and otherwise put behind the others. So the number
of open alerts of a kind never goes above one (`OneOpen`), as long as
nobody else opens any.
-/

namespace AlertRules

/-- The kind of an alert. -/
abbrev AlertKey := String × String

namespace Alert

def key (a : Alert) : AlertKey := (a.organizationId, a.fingerprint)

end Alert

namespace StoredAlert

def isKey (key : AlertKey) (a : StoredAlert) : Bool := a.isOf key.1 key.2

def isOpenKey (key : AlertKey) (a : StoredAlert) : Bool := a.isKey key && a.isOpen

end StoredAlert

/-- Of every kind at most one alert is open. -/
def OneOpen (alerts : List StoredAlert) : Prop :=
  ∀ key, alerts.countP (·.isOpenKey key) ≤ 1

/-- What may become of stored alerts: their states change, but no alert that
is not open is opened. -/
def Closes : List StoredAlert → List StoredAlert → Prop :=
  List.Forall₂ fun a b => b.id = a.id ∧ b.alert = a.alert ∧ (b.isOpen → a.isOpen)

/-- A store and the alerts in it. -/
structure SharedStore (ω : Type) where
  store : AlertStore ω
  alerts : ω → List StoredAlert
  /-- A look-up leaves the alerts alone. -/
  find_alerts : ∀ organizationId fingerprint statuses w,
    (store.findOpen organizationId fingerprint statuses).Ends w fun _ w' => alerts w' = alerts w
  /-- A new alert is refused if an open one of its kind is there. -/
  create_refuses : ∀ a w, (alerts w).any (·.isOpenKey a.key) = true →
    (store.create a).Ends w fun outcome w' => outcome = .ok none ∧ alerts w' = alerts w
  /-- A new alert is inserted if no open one of its kind is there. -/
  create_inserts : ∀ a w, (alerts w).any (·.isOpenKey a.key) = false →
    (store.create a).Ends w fun outcome w' =>
      ∃ id, outcome = .ok (some id) ∧ alerts w' = alerts w ++ [⟨id, a, a.status.name⟩]

/-! ### One open alert -/

theorem OneOpen.insert {alerts : List StoredAlert} (h : OneOpen alerts) {a : Alert}
    (hnone : alerts.any (·.isOpenKey a.key) = false) (id status : String) :
    OneOpen (alerts ++ [⟨id, a, status⟩]) := by
  intro key
  rw [List.countP_append, List.countP_singleton]
  by_cases hkey : StoredAlert.isKey key ⟨id, a, status⟩
  · have hsame : a.key = key := by
      simpa [StoredAlert.isKey, StoredAlert.isOf, Alert.key, Prod.ext_iff] using hkey
    have hzero : alerts.countP (·.isOpenKey key) = 0 := by
      rw [List.countP_eq_zero, ← hsame]
      simpa using hnone
    rw [hzero]
    split <;> omega
  · have hclosed : StoredAlert.isOpenKey key ⟨id, a, status⟩ = false := by
      simp [StoredAlert.isOpenKey, hkey]
    rw [hclosed]
    exact h key

theorem Closes.refl (alerts : List StoredAlert) : Closes alerts alerts :=
  List.forall₂_same.mpr fun _ _ => ⟨rfl, rfl, id⟩

theorem Closes.countP_isKey {before after : List StoredAlert} (h : Closes before after)
    (key : AlertKey) : after.countP (·.isKey key) = before.countP (·.isKey key) := by
  induction h with
  | nil => rfl
  | @cons a b as bs hab _ ih =>
      have hsame : b.isKey key = a.isKey key := by
        rw [StoredAlert.isKey, StoredAlert.isKey, StoredAlert.isOf, StoredAlert.isOf, hab.2.1]
      rw [List.countP_cons, List.countP_cons, ih, hsame]

theorem Closes.countP_isOpenKey_le {before after : List StoredAlert} (h : Closes before after)
    (key : AlertKey) : after.countP (·.isOpenKey key) ≤ before.countP (·.isOpenKey key) := by
  induction h with
  | nil => exact Nat.le_refl 0
  | @cons a b as bs hab _ ih =>
      have himplies : b.isOpenKey key = true → a.isOpenKey key = true := by
        simp only [StoredAlert.isOpenKey, StoredAlert.isKey, StoredAlert.isOf, hab.2.1,
          Bool.and_eq_true]
        exact fun hb => ⟨hb.1, hab.2.2 hb.2⟩
      rw [List.countP_cons, List.countP_cons]
      by_cases hb : b.isOpenKey key = true
      · rw [if_pos hb, if_pos (himplies hb)]
        omega
      · rw [if_neg hb]
        omega

theorem Closes.oneOpen {before after : List StoredAlert} (h : Closes before after)
    (hone : OneOpen before) : OneOpen after :=
  fun key => Nat.le_trans (h.countP_isOpenKey_le key) (hone key)

/-! ### The store in memory -/

/-- The store in memory with nothing to it but its alerts. -/
def ledger : SharedStore (List StoredAlert) where
  store := Memory.store.within (fun alerts => { alerts }) fun _ m => m.alerts
  alerts := id
  find_alerts := by
    intro organizationId fingerprint statuses alerts
    refine .within (.bind_modify (.bind_get (.ofExcept ?_)))
    rfl
  create_refuses := by
    intro a alerts hopen
    have hinsert : Memory.insert { alerts } a = none := if_pos hopen
    refine .within (.bind_get ?_)
    simp only [hinsert]
    exact .pure ⟨rfl, rfl⟩
  create_inserts := by
    intro a alerts hnone
    have hinsert : Memory.insert { alerts } a =
        some (Memory.nextId { alerts },
          { alerts := alerts ++ [⟨Memory.nextId { alerts }, a, a.status.name⟩] }) :=
      if_neg (Bool.eq_false_iff.mp hnone)
    refine .within (.bind_get ?_)
    simp only [hinsert]
    exact .bind_set (.pure ⟨_, rfl, rfl⟩)

end AlertRules
