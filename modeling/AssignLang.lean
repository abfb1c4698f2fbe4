import AssignLang.FrontEnd.Threaded
import AssignLang.Main
import AssignLang.Proofs.Command.Agreement
import AssignLang.Proofs.Command.Output
import AssignLang.Proofs.FrontEnd.EagerAgreement
import AssignLang.Proofs.FrontEnd.FirstStatement
import AssignLang.Proofs.FrontEnd.Messages
import AssignLang.Proofs.FrontEnd.SourceLanguage
import AssignLang.Proofs.FrontEnd.Statements
import AssignLang.Proofs.FrontEnd.ThreadedAgreement
import AssignLang.Proofs.Grammar.Outcome
import AssignLang.Proofs.Handoff.Cause
import AssignLang.Proofs.Handoff.Completion
import AssignLang.Proofs.Handoff.Draining
import AssignLang.Proofs.Handoff.FirstFault
import AssignLang.Proofs.Handoff.Joining
import AssignLang.Proofs.Handoff.Lifetime
import AssignLang.Proofs.Handoff.Lockstep
import AssignLang.Proofs.Handoff.Requests
import AssignLang.Proofs.Lexical.ClosingQuote
import AssignLang.Proofs.Lexical.Culprit
import AssignLang.Proofs.Lexical.Head
import AssignLang.Proofs.Lexical.Layout
import AssignLang.Proofs.Lexical.LineBreak
import AssignLang.Proofs.Lexical.LookAhead
import AssignLang.Proofs.Lexical.Machine
import AssignLang.Proofs.Lexical.Tiling
import AssignLang.Proofs.Text.Outline
import AssignLang.Proofs.Text.Quoted
import AssignLang.Proofs.Tree.Indentation
import AssignLang.Proofs.Tree.Renderings
import AssignLang.Token.Outline
