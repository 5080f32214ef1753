import JsonQuery.Main
import JsonQuery.Syntax.Same
import JsonQuery.Proofs.PrintedQueries
import JsonQuery.Proofs.Removal
import JsonQuery.Proofs.Replacement
import JsonQuery.Proofs.Insertion
import JsonQuery.Proofs.Steps
import JsonQuery.Proofs.FilterTypes
import JsonQuery.Proofs.StringLiterals
import JsonQuery.Proofs.Splitting
import JsonQuery.Proofs.TokenContract
import JsonQuery.Proofs.ParserFailures
import JsonQuery.Proofs.Placement
import JsonQuery.Proofs.Respacing
import JsonQuery.Proofs.CompiledQueries
import JsonQuery.Proofs.QueryEquality
import JsonQuery.Proofs.PathQueries
import JsonQuery.Slice.Guarded
import JsonQuery.Proofs.GuardedSlices
import JsonQuery.Proofs.SingularInsertion
import JsonQuery.Proofs.ComparisonLaws
import JsonQuery.Proofs.ValueEquality
import JsonQuery.Proofs.Containers
import JsonQuery.Proofs.Locality
import JsonQuery.Proofs.Shapes
import JsonQuery.Proofs.DistinctMatches
import JsonQuery.Proofs.StringTokens
import JsonQuery.Proofs.ErrorPlaces
import JsonQuery.Proofs.AnchoredPatterns
import JsonQuery.Proofs.FreeDots
import JsonQuery.Proofs.SegmentSpellings
import JsonQuery.Proofs.BracketIntegers
