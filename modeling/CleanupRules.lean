import CleanupRules.Handle
import CleanupRules.Main
import CleanupRules.Pattern.Spelling
import CleanupRules.Rule.Glob
import CleanupRules.RuleSet.Journal
import CleanupRules.RuleSpec.Json
import CleanupRules.Proofs.LabelGlob
import CleanupRules.Proofs.PatternContinuation
import CleanupRules.Proofs.RuleMeaning
import CleanupRules.Proofs.CompiledRules
import CleanupRules.Proofs.BenchmarkHits
import CleanupRules.Proofs.CapitalRules
import CleanupRules.Proofs.CleanSuggestions
import CleanupRules.Proofs.DistinctSources
import CleanupRules.Proofs.EqualMatchers
import CleanupRules.Proofs.EquivalentRules
import CleanupRules.Proofs.HandleAgreement
import CleanupRules.Proofs.HostAncestry
import CleanupRules.Proofs.HostSpellings
import CleanupRules.Proofs.LabelIssues
import CleanupRules.Proofs.RedundantWildcards
import CleanupRules.Proofs.RegistrableGroups
import CleanupRules.Proofs.RegistrableSuggestions
import CleanupRules.Proofs.OrdinaryHosts
import CleanupRules.Proofs.SuggestedRules
import CleanupRules.Proofs.TotalCompilation
import CleanupRules.Proofs.UrlAssembly
import CleanupRules.Proofs.UrlAuthority
import CleanupRules.Proofs.UrlOffsets
import CleanupRules.Proofs.RuleSetRuns
import CleanupRules.Proofs.TidiedRules
import CleanupRules.Proofs.DecideCommand
import CleanupRules.Proofs.WrittenRules
import CleanupRules.Proofs.WrittenSpecs
