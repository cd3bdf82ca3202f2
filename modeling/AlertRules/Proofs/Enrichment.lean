import AlertRules.Enrichment
import AlertRules.Proofs.Value.Shown

/-!
What enrichers make of a payload.

Each enricher sees the payload with what was gathered before it, and adds what can be
merged of what it returns (`Enricher.contribution`). The enrichers that are due for a
module are those for all modules and then those for the module itself, each group in the
order of registration (`Enrichment.due`).

Who was asked and about what is not part of a result, so each application is written
down before it is made. This changes nothing else (`enrichNoting_mirrors`). The
enrichers that are due are applied once each, and what they add is gathered, as long as
two things do not happen (`applied_once_iff`): an enricher returns something that counts
and cannot be merged, or fails for a module that no message can name, which ends the whole
enrichment; or the module goes by the name that stands for all modules, and the enrichers of
this name are applied twice.
-/

namespace AlertRules

open AlertRules.Action

/-! ### One enricher -/

namespace Table

theorem ofValue_of_not_truthy {v : Value} (h : v.truthy = false) :
    (ofValue v).toOption.getD [] = [] := by
  cases v with
  | null | missing | bool | int | float | decimal => rfl
  | text s =>
      have hempty : s = "" := by simpa [Value.truthy] using h
      subst hempty
      rfl
  | list items | tuple items =>
      have hempty : items = [] := by simpa [Value.truthy] using h
      subst hempty
      rfl
  | object fields =>
      have hempty : fields = [] := by simpa [Value.truthy] using h
      subst hempty
      rfl

end Table

namespace Enricher

/-- What an enricher adds to a payload: nothing if it fails, and nothing if it returns what
cannot be merged. -/
def contribution (f : Enricher) (payload : Table) : Table :=
  match f payload with
  | .ok derived => (Table.ofValue derived).toOption.getD []
  | .error _ => []

/-- What an enricher returns for a payload can be merged, if it counts; and if it fails, it
can be told for which module. -/
structure Merges (f : Enricher) (moduleName : Value) (payload : Table) : Prop where
  derived : ∀ derived, f payload = .ok derived → derived.truthy = true →
    ∃ table, Table.ofValue derived = .ok table
  failed : ∀ fault, f payload = .error fault → moduleName.hasText = true

end Enricher

namespace Enrichment

variable {σ τ : Type} {moduleName : Value} {payload : Table} {f : Enricher}

/-- What has been gathered of a payload, with what an enricher derives from it. That it fails
is told of the module. -/
def derive (moduleName : Value) (payload : Table) (enricher : Enricher) : Except Fault Table :=
  match enricher payload with
  | .error _ => (fun _ => payload) <$> moduleName.display
  | .ok derived => if derived.truthy then payload.update <$> Table.ofValue derived else .ok payload

/-- The payload with everything that the enrichers for a module derive. -/
def derived (e : Enrichment) (moduleName data : Value) : Except Fault Table := do
  let payload ← Table.ofValue data
  (← e.enrichersFor moduleName).foldlM (derive moduleName) payload

theorem applyOne_ends (moduleName : Value) (payload : Table) (enricher : Enricher) (s : σ) :
    (applyOne moduleName payload enricher).Ends s fun outcome s' =>
      outcome = derive moduleName payload enricher ∧ s' = s := by
  unfold applyOne derive
  cases enricher payload with
  | error fault =>
      dsimp only
      cases moduleName.display with
      | error fault =>
          exact .bind_ofExcept nofun fun _ h => ⟨congrArg _ (Except.error.inj h.symm), rfl⟩
      | ok name => exact .bind_ofExcept (fun _ _ => .bind_record (.pure ⟨rfl, rfl⟩)) nofun
  | ok derived =>
      dsimp only
      split
      · exact .bind_ofExcept_computes rfl fun table _ => .pure ⟨rfl, rfl⟩
      · exact .pure ⟨rfl, rfl⟩

theorem applyAll_ends (moduleName : Value) (payload : Table) (enrichers : List Enricher) (s : σ) :
    (applyAll moduleName payload enrichers).Ends s fun outcome s' =>
      outcome = enrichers.foldlM (derive moduleName) payload ∧ s' = s := by
  induction enrichers generalizing payload with
  | nil => exact .pure ⟨rfl, rfl⟩
  | cons enricher rest ih =>
      refine .bind_computes (applyOne_ends moduleName payload enricher s) ?_ fun _ hs => hs
      rintro table _ - rfl
      exact ih table

theorem enrich_ends (e : Enrichment) (moduleName data : Value) (s : σ) :
    (e.enrich moduleName data).Ends s fun outcome s' =>
      outcome = e.derived moduleName data ∧ s' = s :=
  .bind_ofExcept_computes rfl fun payload _ => .bind_ofExcept_computes rfl fun enrichers _ =>
    applyAll_ends moduleName payload enrichers s

theorem derive_of_merges (h : f.Merges moduleName payload) :
    derive moduleName payload f = .ok (payload.update (f.contribution payload)) := by
  unfold derive Enricher.contribution
  cases hf : f payload with
  | error fault =>
      dsimp only
      rw [Value.display, Value.written_of_hasText (h.failed fault hf)]
      rfl
  | ok derived =>
      dsimp only
      by_cases hcounts : derived.truthy = true
      · obtain ⟨table, htable⟩ := h.derived derived hf hcounts
        rw [if_pos hcounts, htable]
        rfl
      · rw [if_neg hcounts, Table.ofValue_of_not_truthy (by simpa using hcounts)]
        rfl

theorem merges_of_derive {table : Table} (h : derive moduleName payload f = .ok table) :
    f.Merges moduleName payload := by
  constructor
  · intro derived hf hcounts
    rw [derive, hf] at h
    dsimp only at h
    rw [if_pos hcounts] at h
    obtain ⟨merged, hmerged, -⟩ := map_eq_ok.mp h
    exact ⟨merged, hmerged⟩
  · intro fault hf
    rw [derive, hf] at h
    obtain ⟨name, hname, -⟩ := map_eq_ok.mp h
    exact (Value.written_eq_ok_iff.mp hname).1

theorem derive_of_not_merges (h : ¬f.Merges moduleName payload) :
    ∃ fault, derive moduleName payload f = .error fault := by
  cases hderive : derive moduleName payload f with
  | ok table => exact absurd (merges_of_derive hderive) h
  | error fault => exact ⟨fault, rfl⟩

theorem weightedSum_derived {target : String} {weights : List (String × Value)} {derived : Value}
    (h : Enricher.weightedSum target weights payload = .ok derived) :
    ∃ table, Table.ofValue derived = .ok table := by
  unfold Enricher.weightedSum at h
  obtain ⟨sum, -, hsum⟩ := exists_of_bind_eq_ok h
  cases sum with
  | none => cases hsum; exact ⟨_, rfl⟩
  | some x => cases hsum; exact ⟨_, rfl⟩

/-! ### All that are due -/

def registerAll (e : Enrichment) : List Registration → Action σ Enrichment
  | [] => pure e
  | r :: rest => do registerAll (← e.register r) rest

theorem registerAll_ends (e : Enrichment) (rs : List Registration) (s : σ) :
    (e.registerAll rs).Ends s fun outcome s' => outcome = .ok (e ++ rs) ∧ s' = s := by
  induction rs generalizing e with
  | nil => exact .pure ⟨by rw [List.append_nil], rfl⟩
  | cons r rest ih =>
      have hone : (e.register r : Action σ Enrichment).Ends s fun outcome s' =>
          outcome = .ok (e ++ [r]) ∧ s' = s :=
        .bind_record (.pure ⟨rfl, rfl⟩)
      exact .bind_eq hone (by simpa using ih (e ++ [r]))

/-- Whether a registration concerns the events of a module. -/
def concerns (moduleName : Value) (r : Registration) : Bool :=
  r.moduleName == allModules ||
    match moduleName with
    | .text name => r.moduleName == name
    | _ => false

/-- The enrichers that are due for a module: those for all modules, then those for the module
alone. -/
def due (e : Enrichment) (moduleName : Value) : List Enricher :=
  e.named allModules ++
    match moduleName with
    | .text name => if name = allModules then [] else e.named name
    | _ => []

/-- What is gathered when each of some enrichers adds what it can. -/
def gathered (payload : Table) (fs : List Enricher) : Table :=
  fs.foldl (fun t f => t.update (f.contribution t)) payload

abbrev Application := Enricher × Table

/-- The applications of some enrichers, each to what was gathered before it. -/
def applications : Table → List Enricher → List Application
  | _, [] => []
  | payload, f :: rest =>
    (f, payload) :: applications (payload.update (f.contribution payload)) rest

/-- Every enricher that is applied returns what can be merged, or fails for a module that can
be named. -/
def AllMerge (moduleName : Value) (payload : Table) (fs : List Enricher) : Prop :=
  ∀ a ∈ applications payload fs, a.1.Merges moduleName a.2

theorem allMerge_cons {fs : List Enricher} :
    AllMerge moduleName payload (f :: fs) ↔ f.Merges moduleName payload ∧
      AllMerge moduleName (payload.update (f.contribution payload)) fs := by
  simp [AllMerge, applications]

@[simp] theorem map_fst_applications (payload : Table) (fs : List Enricher) :
    (applications payload fs).map Prod.fst = fs := by
  induction fs generalizing payload with
  | nil => rfl
  | cons f rest ih => simp [applications, ih]

/-! ### Writing down the applications -/

def applyOneNoting (moduleName : Value) (payload : Table) (f : Enricher) :
    Action (List Application) Table := do
  modify (· ++ [(f, payload)])
  applyOne moduleName payload f

/-- Applies enrichers one after the other, and writes it down. -/
def applyAllNoting (moduleName : Value) : Table → List Enricher → Action (List Application) Table
  | payload, [] => pure payload
  | payload, f :: rest => do
    applyAllNoting moduleName (← applyOneNoting moduleName payload f) rest

/-- The payload with the fields that the enrichers for a module derive. The enrichers that were
applied are written down. -/
def enrichNoting (e : Enrichment) (moduleName data : Value) : Action (List Application) Table := do
  let payload ← Action.ofExcept (Table.ofValue data)
  let enrichers ← Action.ofExcept (e.enrichersFor moduleName)
  applyAllNoting moduleName payload enrichers

variable {view : σ → τ} {fs : List Enricher}

theorem applyOne_mirrors : Mirrors view (applyOne moduleName payload f)
    (applyOne moduleName payload f) := by
  unfold applyOne
  cases f payload with
  | error fault => exact .bind (.ofExcept _) fun _ => .bind (.record _ _) fun _ => .pure _
  | ok derived =>
      dsimp only
      split
      · exact .bind (.ofExcept _) fun _ => .pure _
      · exact .pure _

theorem applyAllNoting_mirrors (payload : Table) (fs : List Enricher) :
    Mirrors (fun _ => ()) (applyAllNoting moduleName payload fs)
      (applyAll moduleName payload fs) := by
  induction fs generalizing payload with
  | nil => exact .pure payload
  | cons f rest ih =>
      have hone : Mirrors (fun _ : List Application => ()) (applyOne moduleName payload f)
          (applyOne moduleName payload f) := applyOne_mirrors
      exact .bind (fun journal log => hone (journal ++ [(f, payload)]) log) ih

theorem enrichNoting_mirrors (e : Enrichment) (moduleName data : Value) :
    Mirrors (fun _ => ()) (e.enrichNoting moduleName data) (e.enrich moduleName data) :=
  .bind (.ofExcept _) fun payload => .bind (.ofExcept _) fun enrichers =>
    applyAllNoting_mirrors payload enrichers

/-- If every enricher returns what can be merged, each is applied once and adds what it can;
if one does not, nothing is returned at all. -/
theorem applyAllNoting_ends (payload : Table) (fs : List Enricher) (journal : List Application) :
    (applyAllNoting moduleName payload fs).Ends journal fun outcome journal' =>
      (AllMerge moduleName payload fs → outcome = .ok (gathered payload fs) ∧
          journal' = journal ++ applications payload fs) ∧
        (¬AllMerge moduleName payload fs → ∃ fault, outcome = .error fault) := by
  induction fs generalizing payload journal with
  | nil =>
      refine .pure ⟨fun _ => ⟨rfl, (List.append_nil journal).symm⟩, fun h => ?_⟩
      exact absurd (fun _ hmem => absurd hmem List.not_mem_nil) h
  | cons f rest ih =>
      have hone : (applyOneNoting moduleName payload f).Ends journal fun outcome journal' =>
          outcome = derive moduleName payload f ∧ journal' = journal ++ [(f, payload)] :=
        .bind_modify (applyOne_ends moduleName payload f _)
      by_cases hmerges : f.Merges moduleName payload
      · rw [derive_of_merges hmerges] at hone
        refine .bind_eq hone ((ih _ _).mono fun outcome journal' hrest => ?_)
        simpa [allMerge_cons, hmerges, gathered, applications] using hrest
      · obtain ⟨fault, hfault⟩ := derive_of_not_merges hmerges
        rw [hfault] at hone
        refine .bind hone ?_ ?_
        · rintro table _ ⟨hok, -⟩
          cases hok
        · rintro fault' _ -
          refine ⟨fun hall => absurd (allMerge_cons.mp hall).1 hmerges, fun _ => ⟨fault', rfl⟩⟩

/-! ### Applied once each -/

variable {e : Enrichment} {data : Value}

theorem enrichNoting_eq (hdata : Table.ofValue data = .ok payload)
    (hfs : e.enrichersFor moduleName = .ok fs) :
    e.enrichNoting moduleName data = applyAllNoting moduleName payload fs := by
  rw [enrichNoting, hdata, hfs]
  rfl

/-- The enrichers for a module are those that are due, unless the module has the name that
stands for all modules. -/
theorem enrichersFor_eq_due (hkey : moduleName.isKey = true)
    (hname : moduleName = .text allModules → e.named allModules = []) :
    e.enrichersFor moduleName = .ok (e.due moduleName) := by
  cases moduleName with
  | text name =>
      by_cases hall : name = allModules
      · subst hall
        simp [enrichersFor, due, hname rfl]
      · simp [enrichersFor, due, hall]
  | _ => simp [enrichersFor, due, hkey]

theorem isKey_of_enrichersFor (h : e.enrichersFor moduleName = .ok fs) :
    moduleName.isKey = true := by
  cases moduleName with
  | text name => rfl
  | _ =>
      unfold enrichersFor at h
      dsimp only at h
      split at h
      · assumption
      · cases h

/-- Each registration that concerns a module is due once. -/
theorem due_perm (e : Enrichment) (moduleName : Value) :
    (e.due moduleName).Perm ((e.filter (concerns moduleName)).map (·.enricher)) := by
  have hsplit := List.filter_append_perm (fun r : Registration => r.moduleName == allModules)
    (e.filter (concerns moduleName))
  refine List.Perm.trans (.of_eq ?_) (hsplit.map (·.enricher))
  rw [List.filter_filter, List.filter_filter, List.map_append]
  unfold due named
  congr 1
  · congr 1
    refine List.filter_congr fun r _ => ?_
    simpa [concerns] using Or.inl
  · cases moduleName with
    | text name =>
        dsimp only
        split
        next hall => simp [concerns, hall]
        next hall =>
            congr 1
            refine List.filter_congr fun r _ => ?_
            by_cases hr : r.moduleName = allModules
            · simp [concerns, hr, Ne.symm hall]
            · simp [concerns, beq_eq_false_iff_ne.mpr hr]
    | _ => simp [concerns]

/-- The enrichers that are due for a module are applied once each, and what they add is
gathered, exactly if the module can be looked up, does not go by the name of all modules while
there are enrichers of this name, and every enricher returns what can be merged or fails for a
module that can be named. -/
theorem applied_once_iff (e : Enrichment) (moduleName : Value) {data : Value} {payload : Table}
    (hdata : Table.ofValue data = .ok payload) :
    (∀ s : σ, (registerAll [] e).Ends s fun outcome _ => outcome = .ok e) ∧
      Mirrors (fun _ => ()) (e.enrichNoting moduleName data) (e.enrich moduleName data) ∧
      (e.due moduleName).Perm ((e.filter (concerns moduleName)).map (·.enricher)) ∧
      ((e.enrichNoting moduleName data).Ends [] (fun outcome journal =>
          outcome = .ok (gathered payload (e.due moduleName)) ∧
            journal = applications payload (e.due moduleName)) ↔
        moduleName.isKey = true ∧
          (moduleName = .text allModules → e.named allModules = []) ∧
          AllMerge moduleName payload (e.due moduleName)) := by
  refine ⟨fun s => (registerAll_ends [] e s).mono fun _ _ h => h.1,
    e.enrichNoting_mirrors moduleName data, e.due_perm moduleName, ?_⟩
  constructor
  · intro h
    obtain ⟨houtcome, hjournal⟩ := h []
    cases hfs : e.enrichersFor moduleName with
    | error fault =>
        rw [enrichNoting, hdata, hfs] at houtcome
        cases houtcome
    | ok fs =>
        have hkey := isKey_of_enrichersFor hfs
        rw [enrichNoting_eq hdata hfs] at houtcome hjournal
        have hends : (applyAllNoting moduleName payload fs).Ends [] _ :=
          applyAllNoting_ends payload fs []
        obtain ⟨hgood, hbad⟩ := hends []
        have hall : AllMerge moduleName payload fs := Classical.byContradiction fun hnot => by
          obtain ⟨fault, hfault⟩ := hbad hnot
          cases houtcome.symm.trans hfault
        -- the applications name the enrichers, so those that were applied are those due
        have hsame : fs = e.due moduleName := by
          have happlied := (hgood hall).2.symm.trans hjournal
          simpa using congrArg (List.map Prod.fst) happlied
        subst hsame
        refine ⟨hkey, ?_, hall⟩
        rintro rfl
        simpa [enrichersFor, due] using hfs
  · rintro ⟨hkey, hname, hall⟩
    rw [enrichNoting_eq hdata (enrichersFor_eq_due hkey hname)]
    exact (applyAllNoting_ends payload _ []).mono fun _ _ h => h.1 hall

/-- A sum for one module, one for all modules that it builds on, and an enricher that fails. -/
def loads : Enrichment :=
  [⟨"kitchen", .weightedSum "load" [("pending", .int 1), ("total", .int 2)]⟩,
    ⟨allModules, fun _ => .error (.service .other "enricher down")⟩,
    ⟨allModules, .weightedSum "total" [("pending", .int 3)]⟩]

/-- An order of the kitchen: the enrichers for all modules are applied before the one for the
kitchen, and each of the three once. -/
theorem applied_once_loads :
    let data : Value := .object [("pending", .int 4)]
    Table.ofValue data = .ok [(.text "pending", .int 4)] ∧
    (loads.enrichNoting (.text "kitchen") data).Ends [] fun outcome journal =>
      outcome = .ok (gathered [(.text "pending", .int 4)] (loads.due (.text "kitchen"))) ∧
        journal.length = 3 := by
  intro data
  have hsum : ∀ target weights payload,
      (Enricher.weightedSum target weights).Merges (.text "kitchen") payload :=
    fun _ _ _ => ⟨fun _ h _ => weightedSum_derived h, fun _ _ => rfl⟩
  have hfails : ∀ payload, Enricher.Merges (fun _ => .error (.service .other "enricher down"))
      (.text "kitchen") payload :=
    fun _ => ⟨nofun, fun _ _ => rfl⟩
  have hall : AllMerge (.text "kitchen") [(.text "pending", .int 4)]
      (loads.due (.text "kitchen")) :=
    allMerge_cons.mpr ⟨hfails _, allMerge_cons.mpr ⟨hsum _ _ _,
      allMerge_cons.mpr ⟨hsum _ _ _, fun _ h => absurd h List.not_mem_nil⟩⟩⟩
  have hname : Value.text "kitchen" = .text allModules → loads.named allModules = [] := by
    intro h
    exact absurd (Value.text.inj h) (by decide)
  have hdata : Table.ofValue data = .ok [(.text "pending", .int 4)] := rfl
  obtain ⟨-, -, -, hiff⟩ := applied_once_iff (σ := Unit) loads (.text "kitchen") hdata
  refine ⟨hdata, (hiff.mpr ⟨rfl, hname, hall⟩).mono ?_⟩
  rintro _ _ ⟨houtcome, rfl⟩
  exact ⟨houtcome, rfl⟩

/-- An enricher that returns a number ends the enrichment with a fault, and the only enricher
for all modules is applied twice to an event of a module of that name. -/
theorem number_ends_enrichment :
    let five : Enrichment := [⟨"kitchen", fun _ => .ok (.int 5)⟩]
    let doubling : Enrichment := [⟨allModules, .weightedSum "load" [("load", .int 2)]⟩]
    let data : Value := .object [("load", .int 1)]
    ((five.enrich (.text "kitchen") data : Action Unit Table).runFrom () []).outcome =
        .error .unsupported ∧
      gathered [(.text "load", .int 1)] (five.due (.text "kitchen")) =
        [(.text "load", .int 1)] ∧
      ((doubling.enrichNoting (.text "*") data).runFrom [] []).state.length = 2 ∧
      (doubling.due (.text "*")).length = 1 := by
  intro five doubling data
  refine ⟨rfl, rfl, ?_, rfl⟩
  decide +kernel

end Enrichment

end AlertRules
