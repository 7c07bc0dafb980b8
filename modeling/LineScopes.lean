import LineScopes.Engine.Scripted
import LineScopes.Engine.Standard
import LineScopes.LineLimit
import LineScopes.Proofs.Choosing
import LineScopes.Proofs.ClosedPatterns
import LineScopes.Proofs.Collecting
import LineScopes.Proofs.Consumption
import LineScopes.Proofs.Course
import LineScopes.Proofs.Coverage
import LineScopes.Proofs.EarliestMatch
import LineScopes.Proofs.EmptyMatches
import LineScopes.Proofs.Expansion
import LineScopes.Proofs.Flattening
import LineScopes.Proofs.HeldPatterns
import LineScopes.Proofs.History
import LineScopes.Proofs.JoinedSelectors
import LineScopes.Proofs.LimitInForce
import LineScopes.Proofs.MatchScopes
import LineScopes.Proofs.NameBlindness
import LineScopes.Proofs.NamePrefixes
import LineScopes.Proofs.Names
import LineScopes.Proofs.OpenStates
import LineScopes.Proofs.OuterStates
import LineScopes.Proofs.ParallelRuns
import LineScopes.Proofs.Regions
import LineScopes.Proofs.Reports
import LineScopes.Proofs.Requests
import LineScopes.Proofs.SavedStacks
import LineScopes.Proofs.ScriptedEngine
import LineScopes.Proofs.SelectorErrors
import LineScopes.Proofs.SelectorGrammar
import LineScopes.Proofs.SelectorLaws
import LineScopes.Proofs.SelectorLexer
import LineScopes.Proofs.SelectorReading
import LineScopes.Proofs.SelectorText
import LineScopes.Proofs.SelectorTokens
import LineScopes.Proofs.SpanTexts
import LineScopes.Proofs.StackEmbeddings
import LineScopes.Proofs.Substitution
import LineScopes.Proofs.Termination
import LineScopes.Proofs.Tiling
import LineScopes.Proofs.TokenPlaces
import LineScopes.Proofs.TwoRuns
import LineScopes.Proofs.WrittenNames
import LineScopes.Selector.Matching
import LineScopes.Selector.Parse
import LineScopes.Tokenizer
