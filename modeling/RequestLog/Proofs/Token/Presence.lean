import RequestLog.Proofs.Format.Settings
import RequestLog.Proofs.Number.Decimals
import RequestLog.Proofs.PlainHost
import RequestLog.Proofs.Token.Telling

/-!
Fields that are never empty. What a known token shows of a request whose fields are texts is
absent, or a text with something in it; only the method is shown as it is.
-/
namespace RequestLog

variable {σ : Type}

namespace Value

variable {v w : Value}

def IsText : Value → Prop
  | null => True
  | text _ => True
  | _ => False

/-- Whether a value is absent or a text with something in it. -/
def Present : Value → Prop
  | null => True
  | text s => s ≠ ""
  | _ => False

theorem IsText.hasText (h : v.IsText) : v.HasText := by
  cases v with
  | null => exact hasText_null
  | text s => exact hasText_text s
  | _ => cases h

/-- A text that counts as true has something in it. -/
theorem IsText.orElse (hv : v.IsText) (hw : w.Present) : (v.orElse w).Present := by
  unfold Value.orElse
  split
  · next h =>
    cases v with
    | text s => exact (truthy_text s).mp h
    | null => trivial
    | _ => cases hv
  · exact hw

theorem IsText.orNull (hv : v.IsText) : v.orNull.Present := by
  have hnull : Value.null.Present := trivial
  exact hv.orElse hnull

end Value

/-- What a server tells of a request in texts. The method is shown as it is, headers are texts
always, and a status of any kind is shown in a text or not at all. -/
structure Snapshot.Textual (s : Snapshot σ) : Prop where
  url : s.request.url.IsText
  referrer : s.request.referrer.IsText
  clientAddress : s.request.clientAddress.IsText
  httpVersion : s.request.httpVersion.IsText

theorem Snapshot.Textual.told {s : Snapshot σ} (h : s.Textual) (hl : s.HasLiteral)
    (hm : s.request.method.HasText) : s.Told :=
  ⟨hl, hm, h.referrer.hasText, h.clientAddress.hasText, h.httpVersion.hasText⟩

namespace ClientAddress

variable {r : Request} {v : Value}

end ClientAddress

namespace Builtin

variable {snapshot : Snapshot σ} {args : List Value} {v : Value}

end Builtin

namespace Formatter

variable {host : Host σ} {snapshot : Snapshot σ} {placeholder : String}
    {outcome : Except Fault Value}

end Formatter

end RequestLog
