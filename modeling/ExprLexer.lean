import ExprLexer.Session
import ExprLexer.Main
import ExprLexer.Proofs.TokenBoundaries
import ExprLexer.Proofs.Printing
import ExprLexer.Proofs.Joining
import ExprLexer.Proofs.StreamIsolation
import ExprLexer.Proofs.Respacing
import ExprLexer.Proofs.LiteralDiagnosis
import ExprLexer.Proofs.FailurePlace
import ExprLexer.Proofs.OperatorLookup
import ExprLexer.Proofs.QuotedLiterals
import ExprLexer.Proofs.RunStages
import ExprLexer.Proofs.TableReading
import ExprLexer.Proofs.ManifestLoading
import ExprLexer.Proofs.VersionResolution
import ExprLexer.Proofs.VocabularyLog
