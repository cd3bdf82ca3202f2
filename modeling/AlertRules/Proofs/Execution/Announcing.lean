import AlertRules.Proofs.Execution.Frame
import AlertRules.Proofs.Execution.Watched
import AlertRules.Proofs.Value.Shown

/-!
Announcing an alert.

An executor names its channels by the actions of a rule. A name reaches
a channel if one is configured under it and, for web requests, if the
actions give an address (`Executor.reaches`). The alert is announced on
the names that do, on each once and in their order: at once without a
pool or with a closed one, and as a job for the pool otherwise. What a
channel makes of it does not matter to the others.
-/

namespace AlertRules

variable {ω : Type}

abbrev Sends := List (String × Notification)

def Sends.deeds (sends : Sends) : List Deed := sends.map fun (name, n) => .sent name n

def Sends.jobs (sends : Sends) : List Job := sends.map fun (name, n) => .deliver name n

namespace Executor

def sendsInline (e : Executor ω) (pool : Pool) : Bool := !e.usesPool || pool.isClosed

/-- Whether a name is that of a channel that can be sent to. -/
def reaches (e : Executor ω) (actions : RuleActions) (name : String) : Bool :=
  !(name == "webhook" && !hasWebhookUrl actions) && (e.outlet? name).isSome

def targets (e : Executor ω) (actions : RuleActions) : List String :=
  actions.notify.eraseDups.filter (e.reaches actions)

/-- How a desk changes when sends are made: at once, or as jobs. -/
structure Sent (e : Executor ω) (sends : Sends) (d d' : Desk (Watched ω)) : Prop where
  deeds : d'.world.deeds = d.world.deeds ++ if e.sendsInline d.pool then sends.deeds else []
  pool : d'.pool =
    { d.pool with jobs := d.pool.jobs ++ if e.sendsInline d.pool then [] else sends.jobs }

variable {e : Executor ω} {clock : Clock} {d d' d'' : Desk (Watched ω)}

theorem Sent.nil (e : Executor ω) (d : Desk (Watched ω)) : e.Sent [] d d := by
  refine ⟨?_, ?_⟩ <;> simp [Sends.deeds, Sends.jobs]

theorem Sent.trans {sends sends' : Sends} (h : e.Sent sends d d') (h' : e.Sent sends' d' d'') :
    e.Sent (sends ++ sends') d d'' := by
  have hinline : e.sendsInline d'.pool = e.sendsInline d.pool := by rw [h.pool]; rfl
  refine ⟨?_, ?_⟩
  · rw [h'.deeds, h.deeds, hinline]
    cases e.sendsInline d.pool <;> simp [Sends.deeds]
  · rw [h'.pool, hinline, h.pool]
    cases e.sendsInline d.pool <;> simp [Sends.jobs]

theorem deliver_ends (outlet : Outlet ω) (clock : Clock) (n : Notification)
    (d : Desk (Watched ω)) :
    (deliver outlet.watched clock n).Ends d fun outcome d' =>
      outcome = .ok () ∧ d'.world.deeds = d.world.deeds ++ [.sent outlet.name n] ∧
        d'.pool = d.pool := by
  have hsend : (Desk.outside (outlet.watched.send clock n)).Ends d fun _ d' =>
      d'.world.deeds = d.world.deeds ++ [.sent outlet.name n] ∧ d'.pool = d.pool :=
    fun _ => ⟨rfl, rfl⟩
  refine .bind_attempt hsend ?_
  rintro outcome d' ⟨hdeeds, hpool⟩
  cases outcome with
  | ok dispatch =>
      dsimp only
      split
      · exact .record ⟨rfl, hdeeds, hpool⟩
      · exact .pure ⟨rfl, hdeeds, hpool⟩
  | error fault => exact .record ⟨rfl, hdeeds, hpool⟩

theorem outlet?_name {name : String} {outlet : Outlet ω} (h : e.outlet? name = some outlet) :
    outlet.name = name := by
  simpa using List.find?_some h

/-- Announcing on a name makes one send if the name reaches a channel and
none otherwise. -/
theorem announceOn_ends (e : Executor ω) (clock : Clock) (ruleId : String)
    (actions : RuleActions) (n : Notification) (name : String) (d : Desk (Watched ω)) :
    (e.watched.announceOn clock (.text ruleId) actions n name).Ends d fun outcome d' =>
      outcome = .ok () ∧ e.Sent (if e.reaches actions name then [(name, n)] else []) d d' := by
  unfold announceOn reaches
  rw [outlet?_watched]
  split
  next hwebhook =>
      rw [hwebhook]
      exact .bind_written rfl (.record ⟨rfl, Sent.nil e d⟩)
  next hwebhook =>
      rw [Bool.not_eq_true] at hwebhook
      rw [hwebhook, Bool.not_false, Bool.true_and]
      cases houtlet : e.outlet? name with
      | none => exact .bind_written rfl (.record ⟨rfl, Sent.nil e d⟩)
      | some outlet =>
          have hname := outlet?_name houtlet
          simp only [Option.map_some, Option.isSome_some, if_true]
          rw [show e.watched.usesPool = e.usesPool from rfl]
          split
          next hpool =>
              refine .bind_ok (Desk.submit_ends (.deliver name n) d) ?_
              rintro d' ⟨hworld, hjobs⟩
              cases hclosed : d.pool.isClosed with
              | true =>
                  simp only [Bool.not_true, Bool.not_false, if_true]
                  refine .bind_record ((deliver_ends outlet clock n d').mono ?_)
                  rintro outcome d'' ⟨rfl, hdeeds, hpool'⟩
                  refine ⟨rfl, ?_, ?_⟩
                  · rw [hdeeds, hworld, hname]
                    simp [sendsInline, hclosed, Sends.deeds]
                  · rw [hpool', hjobs]
                    simp [sendsInline, hclosed]
              | false =>
                  refine .pure ⟨rfl, ?_, ?_⟩
                  · rw [hworld]
                    simp [sendsInline, hpool, hclosed]
                  · rw [hjobs]
                    simp [sendsInline, hpool, hclosed, Sends.jobs]
          next hpool =>
              refine (deliver_ends outlet clock n d).mono ?_
              rintro outcome d' ⟨rfl, hdeeds, hpool'⟩
              refine ⟨rfl, ?_, ?_⟩
              · rw [hdeeds, hname]
                simp [sendsInline, hpool, Sends.deeds]
              · rw [hpool']
                simp [sendsInline, hpool]

theorem announceAll_ends (e : Executor ω) (clock : Clock) (ruleId : String)
    (actions : RuleActions) (n : Notification) (names : List String) (d : Desk (Watched ω)) :
    (e.watched.announceAll clock (.text ruleId) actions n names).Ends d fun outcome d' =>
      outcome = .ok () ∧ e.Sent ((names.filter (e.reaches actions)).map (·, n)) d d' := by
  induction names generalizing d with
  | nil => exact .pure ⟨rfl, Sent.nil e d⟩
  | cons name names ih =>
      refine .bind_ok (e.announceOn_ends clock ruleId actions n name d) fun d' hfirst => ?_
      refine (ih d').mono ?_
      rintro outcome d'' ⟨rfl, hrest⟩
      refine ⟨rfl, ?_⟩
      have hboth := hfirst.trans hrest
      rw [List.filter_cons]
      split
      next hreaches =>
          rw [if_pos hreaches] at hboth
          exact hboth
      next hreaches =>
          rw [if_neg hreaches] at hboth
          exact hboth

end Executor

end AlertRules
