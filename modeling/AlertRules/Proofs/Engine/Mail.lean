import AlertRules.Proofs.Engine.Isolation
import AlertRules.Proofs.Execution.Telling
import AlertRules.Proofs.Markup.Signs

/-!
What a payload can do to a page.

A rule has templates for a title and for a message, and the payload that
triggers it fills them. All that is told of the result on any channel is
made of the two texts. So the page of its mail opens and closes what the
templates and the skeleton of a page do: payload, module and link put no
bracket and no quote in it (`mail_signs`).
-/

namespace AlertRules

open AlertRules.Action AlertRules.Markup

/-- Whether the link of actions is a text that is not empty. -/
def RuleActions.showsLink (a : RuleActions) : Bool :=
  match a.link with
  | .text s => !s.isEmpty
  | _ => false

theorem Channel.isSome_linkOf {n : Notification} {actions : RuleActions}
    (h : actions.link = Value.ofText? n.link) : (linkOf n).isSome = actions.showsLink := by
  unfold linkOf RuleActions.showsLink
  rw [h]
  cases n.link with
  | none => rfl
  | some s =>
      simp only [Value.ofText?]
      split
      next hempty => rw [hempty]; rfl
      next hfilled => simp [hfilled]

theorem Email.html_of_format {n : Notification} {letter : Letter} (h : format n = .ok letter) :
    letter.html = page n := by
  obtain ⟨message, -, h⟩ := exists_of_bind_eq_ok h
  obtain ⟨subject, -, h⟩ := exists_of_bind_eq_ok h
  cases h
  rfl

namespace Engine

variable {ω : Type}

/-- The page of a notification made of the result of a rule has the signs of the
templates. -/
theorem signs_of_announces {τ : Type} {x : Executor τ} {clock : Clock} {rule : Rule} {now : Moment}
    {context : EvaluationContext} {data : Value} {w : Wording}
    (htitled : Template.interpolate rule.titleTemplate data = .ok w.title)
    (hworded : Template.interpolate rule.messageTemplate data = .ok w.message) {n : Notification}
    (h : x.Announces clock (.ofResult (triggeredResult rule now context w)) n) :
    ∃ title, title <+: signs (if w.title.isEmpty then
          rule.messageTemplate else rule.titleTemplate).toList ∧
      signs (Email.page n).toList =
        Email.skeleton title (signs rule.messageTemplate.toList) rule.actions.showsLink := by
  let submission := Submission.ofResult (triggeredResult rule now context w)
  have htitle : submission.alertTitle = .text w.title := rfl
  have hmessage : submission.message = .text w.message := rfl
  have hactions : submission.actions = .held rule.actions := rfl
  obtain ⟨hsaid, hnamed, hlink⟩ := h.says htitle hmessage hactions
  refine ⟨signs n.title.toList, ?_, ?_⟩
  · rw [hnamed, truncate, String.toList_ofList]
    refine (signs_truncateChars _ _).trans ?_
    split
    · rw [Template.signs_interpolate hworded]
    · rw [Template.signs_interpolate htitled]
  · rw [Email.signs_page, hsaid, Template.signs_interpolate hworded, Channel.isSome_linkOf hlink]

/-- Whatever is told of the result of a rule that triggered, now or later, has a page
with the signs of the skeleton, of the message template, and of the beginning of
the title template, or of the message template again if the title comes out
empty. Watching the executor is no part of what it does. -/
theorem mail_signs {e : Engine ω} {clock : Clock} {rule : Rule} {data : Value}
    {context : EvaluationContext} {s : EngineState ω} {log : Log} {r : EvaluationResult}
    (hresult : ((e.evaluateRule clock rule data context).runFrom s log).outcome = .ok r)
    (htriggered : r.triggered = true) {τ : Type} (x : Executor τ) (clock' : Clock) (d : Desk τ)
    (log' : Log) :
    let ending := (x.watched.execute clock' [.ofResult r]).runFrom d.watched log'
    (x.execute clock' [.ofResult r]).runFrom d log' =
        ⟨ending.outcome, ending.state.unwatched, ending.log⟩ ∧
      ∃ rendered, Template.interpolate rule.titleTemplate data = .ok rendered ∧
        ∃ later, ending.state.pool.jobs = d.pool.jobs ++ later ∧
          ∀ name n, .sent name n ∈ ending.state.world.deeds ∨ .deliver name n ∈ later →
            (∃ title, title <+: signs (if rendered.isEmpty then
                  rule.messageTemplate else rule.titleTemplate).toList ∧
              signs (Email.page n).toList =
                Email.skeleton title (signs rule.messageTemplate.toList) rule.actions.showsLink) ∧
            ∀ letter, Email.format n = .ok letter → letter.html = Email.page n := by
  intro ending
  refine ⟨x.execute_mirrors clock' [.ofResult r] d.watched log', ?_⟩
  obtain ⟨now, w, hw, rfl⟩ :=
    ((e.evaluateRule_yields clock rule data context s trivial log).2 r hresult).2 htriggered
  obtain ⟨htitled, hworded, -⟩ := wording_eq_ok_iff.mp hw
  have htold : ending.state.Tells
      (x.Announces clock' (.ofResult (triggeredResult rule now context w))) d.pool.jobs := by
    refine Executor.execute_tells ?_ d.watched ⟨?_, [], ?_, ?_⟩ log'
    · rintro _ hs n hn
      rwa [List.mem_singleton.mp hs] at hn
    · exact fun _ _ h => absurd h List.not_mem_nil
    · exact (List.append_nil _).symm
    · exact fun _ _ h => absurd h List.not_mem_nil
  obtain ⟨later, hjobs, hlater⟩ := htold.later
  refine ⟨w.title, htitled, later, hjobs, fun name n hn => ⟨?_, fun _ => Email.html_of_format⟩⟩
  exact signs_of_announces htitled hworded (hn.elim (htold.sent name n) (hlater name n))

/-- A rule with tags in its templates and a quote in its link. -/
def boldCode : Rule :=
  { codeIn [.text "<script>'"] with
    actions := {
      title := some "<b>\x7bcode\x7d</b>", message := some "it's \x7bcode\x7d", notify := ["slack"]
      customData := some [("link", .text "https://example.org/\"")] } }

/-- A script in the payload is no script in the page. -/
theorem mail_signs_script :
    let data : Value := .object [("code", .text "<script>'")]
    let context : EvaluationContext :=
      ⟨.text "org-1", .text "<kitchen>", [], untouched.statistics.lastEvaluationAt, none, none,
        none, [], []⟩
    let run := ((lookingUp boldCode).evaluateRule {} boldCode data context).runFrom untouched []
    let x := Executor.withSlack Memory.store
    let after := fun r => (x.watched.execute {} [.ofResult r]).runFrom (Desk.watched ⟨{}, {}⟩) []
    ∃ r, run.outcome = .ok r ∧ r.triggered = true ∧
      ∃ n, .sent "slack" n ∈ (after r).state.world.deeds ∧
        ∃ title, title <+: ['<', '>', '<', '>'] ∧
          signs (Email.page n).toList = Email.skeleton title ['\''] true := by
  intro data context run x after
  have hcomputed : run.outcome.toOption.map (fun r =>
      (r.triggered, (after r).state.world.deeds.any fun deed =>
        match deed with
        | .sent name _ => name == "slack"
        | .created .. => false)) = some (true, true) := by
    decide +kernel
  have htemplates : (Template.interpolate boldCode.titleTemplate data).toOption.map (fun rendered =>
        signs (if rendered.isEmpty then
          boldCode.messageTemplate else boldCode.titleTemplate).toList) =
          some ['<', '>', '<', '>'] ∧
      signs boldCode.messageTemplate.toList = ['\''] ∧ boldCode.actions.showsLink = true := by
    decide +kernel
  cases hrun : run.outcome with
  | error fault =>
      rw [hrun] at hcomputed
      cases hcomputed
  | ok r =>
      rw [hrun] at hcomputed
      obtain ⟨htriggered, hsent⟩ := Prod.mk.inj (Option.some.inj hcomputed)
      obtain ⟨deed, hdeed, hslack⟩ := List.any_eq_true.mp hsent
      cases deed with
      | created a outcome => cases hslack
      | sent name n =>
          obtain rfl := eq_of_beq hslack
          obtain ⟨-, rendered, hrendered, later, -, htold⟩ :=
            mail_signs hrun htriggered x {} ⟨{}, {}⟩ []
          obtain ⟨⟨title, htitle, hpage⟩, -⟩ := htold "slack" n (.inl hdeed)
          rw [hrendered] at htemplates
          obtain ⟨hsigns, hmessage, hlink⟩ := htemplates
          rw [hmessage, hlink] at hpage
          exact ⟨r, rfl, htriggered, n, hdeed, title, Option.some.inj hsigns ▸ htitle, hpage⟩

end Engine

end AlertRules
