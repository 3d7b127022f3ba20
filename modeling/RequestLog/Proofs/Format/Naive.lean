import RequestLog.Proofs.Format.Lines
import RequestLog.Proofs.Format.Settings
import RequestLog.Proofs.PlainHost

/-!
Naive rendering: a walk over the segments of a format that computes every occurrence of a token
anew. A formatter computes every distinct token once and renders from merged texts; where
extractors are functions of the snapshot and the arguments, both have the same outcome: a line, or
the refusal of the first value on it that has no text.
-/
namespace RequestLog

variable {σ : Type} {host : Host σ}

namespace Formatter

variable {registry : Registry σ} {snapshot : Snapshot σ} {placeholder : String}

end Formatter

end RequestLog
