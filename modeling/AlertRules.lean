import AlertRules.Consumer.Rules
import AlertRules.Document
import AlertRules.World
import AlertRules.Proofs.Channel.Letter
import AlertRules.Proofs.Channel.Sending
import AlertRules.Proofs.Comparison.Numerals
import AlertRules.Proofs.Comparison.Separation
import AlertRules.Proofs.Comparison.Totality
import AlertRules.Proofs.Comparison.Wholes
import AlertRules.Proofs.Condition.Computed
import AlertRules.Proofs.Condition.Grammar
import AlertRules.Proofs.Condition.Meaning
import AlertRules.Proofs.Consumer.Discipline
import AlertRules.Proofs.Consumer.Handling
import AlertRules.Proofs.Engine.Accounts
import AlertRules.Proofs.Engine.Comparisons
import AlertRules.Proofs.Engine.Entity
import AlertRules.Proofs.Engine.Freshness
import AlertRules.Proofs.Engine.Mail
import AlertRules.Proofs.Engine.Redelivery
import AlertRules.Proofs.Settings.Bounds
import AlertRules.Proofs.Stream.Publication
import AlertRules.Proofs.Template.Restored
