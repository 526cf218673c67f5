import SlashCommands.Main
import SlashCommands.Proofs.LongestMatch
import SlashCommands.Proofs.ArgumentChain
import SlashCommands.Proofs.Conversion
import SlashCommands.Proofs.Dispatching
import SlashCommands.Proofs.ActorLookup
import SlashCommands.Proofs.Registration
import SlashCommands.Proofs.HandlerArguments
import SlashCommands.Proofs.TypedLine
import SlashCommands.Proofs.Denial
import SlashCommands.Proofs.RegistrationOrder
import SlashCommands.Proofs.CanonicalPaths
import SlashCommands.Proofs.CaseFolding
import SlashCommands.Proofs.ConsoleRun
import SlashCommands.Proofs.Recasing
import SlashCommands.Proofs.Refusal
import SlashCommands.Proofs.AdminGate
import SlashCommands.Proofs.ArgumentTypes
import SlashCommands.Proofs.DemoAnswers
import SlashCommands.Proofs.Tokens
import SlashCommands.Proofs.ProgramRun
import SlashCommands.Proofs.GroupPaths
import SlashCommands.Proofs.LookupRule
import SlashCommands.Proofs.Acceptance
import SlashCommands.Proofs.Talk
import SlashCommands.Proofs.RosterChange
import SlashCommands.Proofs.ArgumentRun
import SlashCommands.Proofs.Completion
import SlashCommands.Proofs.HelpPages
import SlashCommands.Proofs.IntegerNumerals
import SlashCommands.Proofs.Utf8Bytes
import SlashCommands.Proofs.NumeralGrammar
import SlashCommands.Proofs.NumeralScan
import SlashCommands.Proofs.HexColors
import SlashCommands.Proofs.StartCondition
import SlashCommands.Proofs.BlankText
import SlashCommands.Proofs.RosterHistory
