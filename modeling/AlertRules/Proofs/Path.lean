import AlertRules.Path
import Mathlib.Data.List.Basic

/-!
Paths and what they lead to.

The names of two paths with a point between them are those of the one and then
those of the other (`segments_append_point`), and names are followed one after the
other (`follow_append`). So the second path can be followed from where the first one
leads. That is nowhere if a name on the way is lacking, and from there no path leads
anywhere.

Where keys lead can be said without a walk: each is the name of a field of the object
that the keys before it lead to (`Leads`). Keys that lead to no value have a first one
that is lacking (`Lacks`), and the walk ends there.
-/

namespace AlertRules.Path

variable {v w : Value} {keys : List String}

/-! ### Keys -/

/-- Keys lead to a value: each of them is the name of a field of an object. -/
inductive Leads : Value → List String → Value → Prop
  | here (v : Value) : Leads v [] v
  | field {fields : Object} {key : String} {v w : Value} {keys : List String} :
      fields.get? key = some v → Leads v keys w → Leads (.object fields) (key :: keys) w

/-- A value has no field of a name. Only objects have fields. -/
def Lacks (v : Value) (key : String) : Prop :=
  ∀ fields, v = .object fields → Object.get? fields key = none

/-- One of the keys is lacking where the keys before it lead. -/
def Stops (v : Value) (keys : List String) : Prop :=
  ∃ taken key rest w, keys = taken ++ key :: rest ∧ Leads v taken w ∧ Lacks w key

theorem lacks_or_exists (v : Value) (key : String) :
    Lacks v key ∨ ∃ fields w, v = .object fields ∧ Object.get? fields key = some w := by
  cases v with
  | object fields =>
      cases hfield : Object.get? fields key with
      | none =>
          left
          rintro _ ⟨⟩
          exact hfield
      | some w => exact .inr ⟨fields, w, rfl, hfield⟩
  | _ => exact .inl nofun

theorem child_of_lacks {key : String} (h : Lacks v key) : child v key = .missing := by
  cases v with
  | object fields => rw [child, h fields rfl, Option.getD_none]
  | _ => rfl

/-- Keys lead on, or one of them is lacking: induction on the keys. -/
theorem leads_or_stops (v : Value) (keys : List String) : (∃ w, Leads v keys w) ∨ Stops v keys := by
  induction keys generalizing v with
  | nil => exact .inl ⟨v, .here v⟩
  | cons key keys ih =>
      obtain hlacks | ⟨fields, u, rfl, hfield⟩ := lacks_or_exists v key
      · exact .inr ⟨[], key, keys, v, rfl, .here v, hlacks⟩
      · obtain ⟨w, hw⟩ | ⟨taken, lacking, rest, w, rfl, hw, hlacks⟩ := ih u
        · exact .inl ⟨w, .field hfield hw⟩
        · exact .inr ⟨key :: taken, lacking, rest, w, rfl, .field hfield hw, hlacks⟩

/-! ### Following -/

theorem follow_append (v : Value) (keys more : List String) :
    follow v (keys ++ more) = follow (follow v keys) more := by
  induction keys generalizing v with
  | nil => rfl
  | cons key keys ih => exact ih (child v key)

theorem follow_missing (keys : List String) : follow .missing keys = .missing := by
  induction keys with
  | nil => rfl
  | cons key keys ih => exact ih

theorem Leads.follow (h : Leads v keys w) : Path.follow v keys = w := by
  induction h with
  | here => rfl
  | field hfield _ ih => rw [Path.follow, child, hfield, Option.getD_some, ih]

theorem Stops.follow (h : Stops v keys) : Path.follow v keys = .missing := by
  obtain ⟨taken, key, rest, w, rfl, hw, hlacks⟩ := h
  rw [follow_append, hw.follow, Path.follow, child_of_lacks hlacks, follow_missing]

theorem Stops.not_leads (h : Stops v keys) : ¬Leads v keys w := by
  obtain ⟨taken, key, rest, u, rfl, hu, hlacks⟩ := h
  intro hw
  induction hu with
  | here u =>
      cases hw with
      | field hfield => cases (hlacks _ rfl).symm.trans hfield
  | field hfield _ ih =>
      cases hw with
      | field hfield' hw =>
          cases hfield.symm.trans hfield'
          exact ih hlacks hw

/-! ### Paths as texts -/

theorem segments_ne_nil (cs : List Char) : segments cs ≠ [] := by
  rw [segments_eq_splitOn]
  exact List.splitOn_ne_nil '.' cs

theorem segments_append_point (cs ds : List Char) :
    segments (cs ++ '.' :: ds) = segments cs ++ segments ds := by
  induction cs with
  | nil => rfl
  | cons c cs ih =>
      rw [List.cons_append, segments, segments, ih]
      split
      · rfl
      · -- the first name, which `c` belongs to, is one of the first text
        obtain ⟨name, names, hnames⟩ := List.exists_cons_of_ne_nil (segments_ne_nil cs)
        rw [hnames]
        rfl

theorem mem_of_mem_segments {cs name : List Char} (h : name ∈ segments cs) {c : Char}
    (hc : c ∈ name) : c ∈ cs ∧ c ≠ '.' := by
  induction cs generalizing name with
  | nil => simp_all [segments]
  | cons d cs ih =>
      rw [segments] at h
      split at h
      next =>
          rcases List.mem_cons.mp h with rfl | h
          · simp at hc
          · exact ⟨List.mem_cons_of_mem d (ih h hc).1, (ih h hc).2⟩
      next hpoint =>
          have hd : d ≠ '.' := by simpa using hpoint
          split at h
          next => simp_all
          next first rest hsegments =>
              rw [hsegments] at ih
              rcases List.mem_cons.mp h with rfl | h
              · rcases List.mem_cons.mp hc with rfl | hc
                · exact ⟨by simp, hd⟩
                · have hfirst := ih (List.mem_cons_self ..) hc
                  exact ⟨List.mem_cons_of_mem d hfirst.1, hfirst.2⟩
              · have hrest := ih (List.mem_cons_of_mem first h) hc
                exact ⟨List.mem_cons_of_mem d hrest.1, hrest.2⟩

theorem intercalate_segments (cs : List Char) : ['.'].intercalate (segments cs) = cs := by
  rw [segments_eq_splitOn]
  exact List.intercalate_splitOn '.'

theorem segments_intercalate {names : List (List Char)} (hne : names ≠ [])
    (h : ∀ name ∈ names, '.' ∉ name) : segments (['.'].intercalate names) = names := by
  rw [segments_eq_splitOn]
  exact List.splitOn_intercalate '.' h hne

theorem extract_of_ne_empty {path : String} (h : path ≠ "") (v : Value) :
    extract v path = follow v ((segments path.toList).map String.ofList) := by
  have hempty : path.isEmpty = false := by simpa using h
  rw [extract, hempty, if_neg Bool.false_ne_true]

/-- Keys without points, joined by points, are the names of a path. -/
theorem names_intercalate (hne : keys ≠ []) (hkeys : ∀ key ∈ keys, '.' ∉ key.toList) :
    (segments (".".intercalate keys).toList).map String.ofList = keys := by
  have hpoint : ".".toList = ['.'] := rfl
  rw [String.toList_intercalate, hpoint, segments_intercalate (by simpa using hne)
    (List.forall_mem_map.mpr hkeys), List.map_map]
  simp

/-- Of all lists of keys only that of one empty key is joined to no path. -/
theorem intercalate_ne_empty (hne : keys ≠ []) (hkeys : ∀ key ∈ keys, '.' ∉ key.toList)
    (hempty : keys ≠ [""]) : ".".intercalate keys ≠ "" := by
  intro hjoined
  have hnames := names_intercalate hne hkeys
  rw [hjoined] at hnames
  exact hempty hnames.symm

/-- A path of two parts leads where the second part leads from where the first one does, and
a path of keys leads where its keys lead, and nowhere as soon as one of them is lacking. -/
theorem extract_composes (v : Value) :
    (∀ p q : String, p ≠ "" → q ≠ "" →
        extract v (p ++ "." ++ q) = extract (extract v p) q) ∧
      ∀ keys : List String, keys ≠ [] → keys ≠ [""] → (∀ key ∈ keys, '.' ∉ key.toList) →
        (∀ w, Leads v keys w → extract v (".".intercalate keys) = w) ∧
          (Stops v keys → extract v (".".intercalate keys) = .missing) ∧
          (Stops v keys ↔ ∀ w, ¬Leads v keys w) := by
  constructor
  · intro p q hp hq
    have hpoint : (p ++ "." ++ q).toList = p.toList ++ '.' :: q.toList := by simp
    have hne : p ++ "." ++ q ≠ "" := by
      rw [← String.toList_inj.ne, hpoint]
      simp
    rw [extract_of_ne_empty hne, extract_of_ne_empty hp, extract_of_ne_empty hq, hpoint,
      segments_append_point, List.map_append, follow_append]
  · intro keys hne hempty hkeys
    have hextract : extract v (".".intercalate keys) = follow v keys := by
      rw [extract_of_ne_empty (intercalate_ne_empty hne hkeys hempty),
        names_intercalate hne hkeys]
    rw [hextract]
    refine ⟨fun w hw => hw.follow, fun hstops => hstops.follow, fun hstops w => hstops.not_leads,
      fun hnone => ?_⟩
    obtain ⟨w, hw⟩ | hstops := leads_or_stops v keys
    · exact absurd hw (hnone w)
    · exact hstops

/-- Two points in a row have an empty name between them, and a list has no fields. -/
theorem extract_composes_order :
    let payload : Value := .object [("order", .object [("", .object [("total", .int 5)]),
      ("items", .list [.int 3])])]
    extract payload ("order." ++ "." ++ "total") = extract (extract payload "order.") "total" ∧
      extract payload (".".intercalate ["order", "", "total"]) = .int 5 ∧
      extract payload (".".intercalate ["order", "items", "0"]) = .missing := by
  intro payload
  have hleads : Leads payload ["order", "", "total"] (.int 5) :=
    .field rfl (.field rfl (.field rfl (.here _)))
  have hstops : Stops payload ["order", "items", "0"] :=
    ⟨["order", "items"], "0", [], .list [.int 3], rfl, .field rfl (.field rfl (.here _)), nofun⟩
  refine ⟨(extract_composes payload).1 "order." "total" (by decide) (by decide), ?_, ?_⟩
  · exact ((extract_composes payload).2 _ (by decide) (by decide) (by decide)).1 _ hleads
  · exact ((extract_composes payload).2 _ (by decide) (by decide) (by decide)).2.1 hstops

end AlertRules.Path
