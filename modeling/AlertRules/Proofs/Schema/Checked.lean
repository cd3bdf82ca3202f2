import AlertRules.Schema.Check

/-!
Checks taken apart.

A record is checked field by field, and the check of the record passes if
all of them do. These lemmas read a passed check back into the checks of
its fields; `simp` takes a whole record apart with them.
-/

namespace AlertRules.Schema

variable {α β : Type}

namespace Checked

@[simp] theorem map_eq_ok {f : α → β} {a : Checked α} {b : β} :
    f <$> a = .ok b ↔ ∃ x, a = .ok x ∧ f x = b := by
  cases a <;> simp [Functor.map, Checked.map]

@[simp] theorem seq_eq_ok {f : Checked (α → β)} {a : Checked α} {b : β} :
    f <*> a = .ok b ↔ ∃ g x, f = .ok g ∧ a = .ok x ∧ g x = b := by
  cases f <;> cases a <;> simp [Seq.seq, Checked.seq]

theorem map_map {γ : Type} (f : α → β) (g : β → γ) (a : Checked α) :
    g <$> f <$> a = (fun x => g (f x)) <$> a := by
  cases a <;> rfl

theorem map_seq {γ : Type} (f : Checked (α → β)) (g : β → γ) (a : Checked α) :
    g <$> (f <*> a) = (fun h x => g (h x)) <$> f <*> a := by
  cases f <;> cases a <;> rfl

theorem seq_ok (f : Checked (α → β)) (a : α) : f <*> .ok a = (fun h => h a) <$> f := by
  cases f <;> rfl

@[simp] theorem under_eq_ok {step : Step} {a : Checked α} {x : α} :
    a.under step = .ok x ↔ a = .ok x := by
  cases a <;> simp [under]

@[simp] theorem flaw_ne_ok {f : Flaw} {x : α} : (flaw f : Checked α) ≠ .ok x := nofun

theorem toExcept_eq_ok {ε : Type} {f : List Issue → ε} {a : Checked α} {x : α} :
    a.toExcept.mapError f = .ok x ↔ a = .ok x := by
  cases a with
  | ok y => exact ⟨fun h => congrArg _ (Except.ok.inj h), fun h => congrArg _ (Checked.ok.inj h)⟩
  | bad issues => exact ⟨nofun, nofun⟩

end Checked

theorem text_eq_ok {v : Value} {s : String} : text v = .ok s ↔ v = .text s := by
  cases v <;> simp [text]

theorem eq_text_of_boundedText {limit : Nat} {v : Value} {s : String}
    (h : boundedText limit v = .ok s) : v = .text s := by
  unfold boundedText legible at h
  split at h
  next =>
      dsimp only at h
      split at h
      · cases h
      · split at h
        · cases h
        · cases h
          rfl
  next => cases h

theorem required_eq_ok {c : Check α} {key : String} {o : Object} {a : α} :
    required c key o = .ok a ↔ ∃ v, o.get? key = some v ∧ c v = .ok a := by
  unfold required
  cases o.get? key with
  | none => simp
  | some v => simp

theorem optional_eq_ok {c : Check α} {key : String} {default : α} {o : Object} {a : α} :
    optional c key default o = .ok a ↔
      (o.get? key = none ∧ default = a) ∨ ∃ v, o.get? key = some v ∧ c v = .ok a := by
  unfold optional
  cases o.get? key with
  | none => simp
  | some v => simp

theorem legibleNames_of {o : Object} {c : Checked α} (known : List String)
    (hknown : known.any Text.hasHalf = false) (h : o.keys ⊆ known) : legibleNames o c = c := by
  have hlegible : o.keys.any Text.hasHalf = false := by
    rw [List.any_eq_false] at hknown ⊢
    exact fun name hname => hknown name (h hname)
  rw [legibleNames, hlegible]
  rfl

theorem eq_ok_of_legibleNames {o : Object} {c : Checked α} {a : α}
    (h : legibleNames o c = .ok a) : c = .ok a := by
  unfold legibleNames at h
  split at h
  · exact absurd h Checked.flaw_ne_ok
  · exact h

/-- What a value that may be null spells: nothing if it is. -/
def Spells (c : Check α) (v : Value) : Option α → Prop
  | none => v = .null
  | some a => c v = .ok a

theorem nullable_of_ne {c : Check α} {v : Value} (h : v ≠ .null) :
    nullable c v = some <$> c v := by
  cases v with
  | null => exact absurd rfl h
  | _ => rfl

theorem nullable_eq_ok {c : Check α} (hnull : ∀ a, c .null ≠ .ok a) {v : Value} {r : Option α} :
    nullable c v = .ok r ↔ Spells c v r := by
  by_cases hv : v = .null
  · subst hv
    cases r with
    | none => exact ⟨fun _ => rfl, fun _ => rfl⟩
    | some a => exact ⟨nofun, fun h => absurd h (hnull a)⟩
  · rw [nullable_of_ne hv, Checked.map_eq_ok]
    cases r with
    | none => simp [Spells, hv]
    | some a => simp [Spells]

/-- A field that may be null or left out, with a check that null does not pass. -/
theorem optional_nullable_eq_ok {c : Check α} (hnull : ∀ a, c .null ≠ .ok a) {key : String}
    {o : Object} {r : Option α} :
    optional (nullable c) key none o = .ok r ↔ Spells c (o.getOrNull key) r := by
  rw [← nullable_eq_ok hnull, optional_eq_ok, Object.getOrNull]
  cases o.get? key with
  | none => simp [nullable]
  | some v => simp

theorem double_null_ne_ok (x : Double) : double .null ≠ .ok x := nofun

theorem closed_eq_ok {known : List String} {o : Object} {u : Unit} :
    closed known o = .ok u ↔ o.keys ⊆ known := by
  have hextras : extras known o = [] ↔ o.keys ⊆ known := by
    simp [extras, Object.keys, List.filter_eq_nil_iff, List.subset_def]
  rw [← hextras]
  unfold closed
  split
  next hnone => simp [hnone]
  next hsome => exact ⟨nofun, fun hnone => absurd hnone hsome⟩

end AlertRules.Schema
