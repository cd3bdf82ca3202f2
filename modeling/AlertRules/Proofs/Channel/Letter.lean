import AlertRules.Channel.Email
import AlertRules.Proofs.Markup.Cuts
import AlertRules.Proofs.Markup.Reading

/-!
The plain texts of a mail.

A notification has its title and its message escaped, for the page of the mail.
The subject and the plain body are no pages, and what is escaped is turned back
for them: the title in the subject and the message in the body, for any texts
they were made of. The title in the body is not. It is the text it was made of
only if nothing in that text had to be escaped (`Email.format_restores`).
-/

namespace AlertRules

namespace Markup

variable {c : Char} {cs : List Char}

def isEscaped (c : Char) : Bool := ['&', '<', '>', '"', '\'', '/'].contains c

theorem escapeChar_eq_self_iff : escapeChar c = [c] ↔ isEscaped c = false := by
  unfold escapeChar
  split_ifs with hampersand hopen hclose hquote hapostrophe hslash
  case neg => simp_all [isEscaped]
  all_goals
    rw [eq_of_beq ‹(c == _) = true›]
    decide

theorem length_le_length_escapeChars (cs : List Char) : cs.length ≤ (escapeChars cs).length := by
  induction cs with
  | nil => exact Nat.le_refl 0
  | cons c cs ih =>
      have hfirst := List.length_pos_of_ne_nil (escapeChar_ne_nil c)
      rw [escapeChars, List.flatMap_cons, List.length_append, List.length_cons]
      rw [escapeChars] at ih
      omega

/-- A text is escaped as it stands if it has none of the characters that are not. -/
theorem escapeChars_eq_self_iff : escapeChars cs = cs ↔ ∀ c ∈ cs, isEscaped c = false := by
  induction cs with
  | nil => exact ⟨fun _ => List.forall_mem_nil _, fun _ => rfl⟩
  | cons c cs ih =>
      rw [List.forall_mem_cons, ← ih, ← escapeChar_eq_self_iff, escapeChars, List.flatMap_cons,
        ← escapeChars]
      constructor
      · intro h
        obtain ⟨hself, -⟩ | hreference := escapeChar_cases c
        · rw [hself, List.singleton_append] at h
          exact ⟨hself, (List.cons.inj h).2⟩
        · -- a reference is longer than what it stands for
          obtain ⟨name, hname, -⟩ := reference_shape hreference
          have hlength := congrArg List.length h
          have hrest := length_le_length_escapeChars cs
          simp only [hname, List.length_append, List.length_cons, List.length_nil] at hlength
          omega
      · rintro ⟨hfirst, hrest⟩
        rw [hfirst, hrest, List.singleton_append]

theorem escape_eq_self_iff {s : String} : escape s = s ↔ ∀ c ∈ s.toList, isEscaped c = false := by
  rw [← escapeChars_eq_self_iff, ← String.toList_inj, escape, String.toList_ofList]

end Markup

namespace Email

open Markup

theorem ampersand_not_mem_heading (s : Severity) : '&' ∉ s.heading.toList := by
  cases s <;> decide

/-- The subject is read as the title it was made of, behind the severity. -/
theorem unescape_subject (s : Severity) (title : String) :
    unescape ("[" ++ s.heading ++ "] " ++ escape title) =
      .ok ("[" ++ s.heading ++ "] " ++ title) := by
  refine ReadsAs.unescape ?_
  rw [String.toList_append, String.toList_append (s := "[" ++ s.heading ++ "] ")]
  refine .append (.verbatim ?_) (readsAs_escape title)
  simp [ampersand_not_mem_heading]

theorem format_eq_ok {n : Notification} {subject message : String}
    (hmessage : unescape n.message = .ok message)
    (hsubject : unescape ("[" ++ n.severity.heading ++ "] " ++ n.title) = .ok subject) :
    format n = .ok ⟨subject, page n, plainBody n message⟩ := by
  rw [format, hmessage, hsubject]
  rfl

/-- Plain bodies that differ in nothing but their titles differ. -/
theorem plainBody_inj {n : Notification} {title title' message : String}
    (h : plainBody { n with title } message = plainBody { n with title := title' } message) :
    title = title' := by
  have hbodies := congrArg String.toList h
  simp only [plainBody, String.toList_append, List.append_assoc] at hbodies
  exact String.toList_inj.mp (List.append_cancel_right hbodies)

/-- Of a notification whose title and message are escaped texts, the subject of the mail
says the title after the severity and the plain body says the message, each as it was. The plain
body has the title with its escapes, so it is the body with that title only for a title that is
escaped as it stands. -/
theorem format_restores (n : Notification) (title message : String) :
    ∃ letter,
      format { n with title := escape title, message := escape message } = .ok letter ∧
        letter.subject = "[" ++ n.severity.heading ++ "] " ++ title ∧
        letter.plain = plainBody { n with title := escape title } message ∧
        (letter.plain = plainBody { n with title } message ↔
          ∀ c ∈ title.toList, isEscaped c = false) := by
  have hmessage := (readsAs_escape message).unescape
  have hsubject := unescape_subject n.severity title
  refine ⟨_, format_eq_ok hmessage hsubject, rfl, rfl, ?_⟩
  rw [← escape_eq_self_iff]
  constructor
  · exact plainBody_inj
  · intro h
    exact congrArg (fun title => plainBody { n with title } message) h

/-- What is told of a load above twenty at a place for fish and chips. -/
def fishAndChips : Notification where
  alertId := none
  ruleId := "rule-1"
  organizationId := "org-1"
  moduleName := some "kitchen"
  title := escape "Fish & Chips"
  message := escape "Load > 20"
  severity := .warning
  fingerprint := "rule-1"
  recipients := []
  webhookUrl := none
  link := none
  metadata := []
  triggeredAt := ⟨2026, 3, 4, 5, 6, 7, 0, some 0⟩

/-- The plain body has the ampersand of a title as a reference, where the subject and the
message have their characters back. -/
theorem title_left_escaped :
    ∃ letter, format fishAndChips = .ok letter ∧
      letter.subject = "[WARNING] Fish & Chips" ∧
      letter.plain =
        "Fish &amp; Chips\n\nSeverity: WARNING\nModule: kitchen\n\nLoad > 20\n" ∧
      letter.plain ≠ plainBody { fishAndChips with title := "Fish & Chips" } "Load > 20" := by
  have hmessage : unescape fishAndChips.message = .ok "Load > 20" :=
    (readsAs_escape "Load > 20").unescape
  have hsubject := unescape_subject .warning "Fish & Chips"
  refine ⟨_, format_eq_ok hmessage hsubject, ?_⟩
  decide +kernel

end Email

end AlertRules
