import MailRules.Main
import MailRules.Parse.Step
import MailRules.Proofs.Token.Segmentation
import MailRules.Proofs.Parse.Alternative
import MailRules.Proofs.Parse.Grammar
import MailRules.Proofs.Parse.Unambiguous
import MailRules.Proofs.Parse.Production
import MailRules.Proofs.Parse.Recognition
import MailRules.Proofs.Parse.Lexed
import MailRules.Proofs.Parse.Placement
import MailRules.Proofs.Rule.RoundTrip
import MailRules.Proofs.Parse.Passage
import MailRules.Proofs.Parse.Cursor
import MailRules.Proofs.Ebnf.Leaf
import MailRules.Proofs.Ebnf.Reachability
import MailRules.Proofs.Ebnf.Denotation
import MailRules.Proofs.Ebnf.Unparse
import MailRules.Proofs.Ebnf.Verification
import MailRules.Proofs.Ebnf.Recognition
import MailRules.Proofs.Ebnf.Inverse
import MailRules.Proofs.Token.Content
import MailRules.Proofs.Token.Respacing
import MailRules.Proofs.Parse.Alike
import MailRules.Proofs.Parse.Respacing
import MailRules.Proofs.Token.Anchor
import MailRules.Proofs.Parse.Anchor
import MailRules.Proofs.Ebnf.Anchor
import MailRules.Proofs.Ebnf.Language
import MailRules.Proofs.Parse.Acceptance
import MailRules.Proofs.Ebnf.Builtin
import MailRules.Proofs.Rule.Normal
import MailRules.Proofs.Ebnf.Closure
import MailRules.Proofs.Json.Quotation
import MailRules.Proofs.Json.Spacing
import MailRules.Proofs.Json.Value
import MailRules.Proofs.Json.Compact
import MailRules.Proofs.Message.Decode
import MailRules.Proofs.Message.Contents
import MailRules.Proofs.Rule.Observation
import MailRules.Proofs.Command.Arguments
import MailRules.Proofs.Command.Outcome
import MailRules.Proofs.Token.Reading
import MailRules.Proofs.Token.Offence
import MailRules.Proofs.Token.Line
import MailRules.Proofs.Rule.Evaluation
import MailRules.Proofs.Rule.Dependence
import MailRules.Proofs.Parse.Lookahead
import MailRules.Proofs.Ebnf.Shape
import MailRules.Proofs.Ebnf.Lookahead
import MailRules.Proofs.Ebnf.Placement
import MailRules.Proofs.Ebnf.Range
import MailRules.Proofs.Ebnf.Order
import MailRules.Ebnf.Report
import MailRules.Proofs.Ebnf.Report
import MailRules.Proofs.Token.LineEnd
import MailRules.Proofs.Command.Listing
