import Easel.Json.Reader
import Easel.Text.Utf8

/-! Converters from diagram text to elements, which are not part of this library and may fail. -/
namespace Easel

/-- How long a conversion may take. -/
inductive TimeLimit where
  | whole (seconds : Int)
  | real (seconds : Float)
  /-- None was given where one belongs. -/
  | missing

/-- Seconds are shown to six significant digits. -/
def TimeLimit.render : TimeLimit → String
  | whole n => renderDuration ((floatOfInt? n).getD (1.0 / 0.0))
  | real x => renderDuration x
  | missing => "[]"

/-- Why a converter gave no elements. -/
inductive ConverterFailure where
  | notStarted (program reason : String)
  | timedOut (limit : TimeLimit)
  | exited (code : Int) (errors : Text)
  | noOutput
  | notUtf8 (e : DecodeError)
  | unreadable (e : Json.ReadError)
  | noElements
  /-- The text has no encoding, so that it cannot be handed over. -/
  | unencodable
  | raised (message : String)

/-- Whether a converter reports the failure as its own, and not what went wrong inside it. -/
def ConverterFailure.isReported : ConverterFailure → Bool
  | notStarted _ _ | timedOut _ | exited _ _ | noOutput | noElements => true
  | unreadable e => e.isMalformed
  | notUtf8 _ | unencodable | raised _ => false

/-- What a converter makes of a text. It may be any value. -/
abbrev Converter := Text → Except ConverterFailure Json

def ConverterFailure.message : ConverterFailure → Text
  | notStarted program reason => .ofString s!"Could not run {program}: {reason}"
  | timedOut limit =>
    .ofString ("Mermaid conversion timed out after " ++ limit.render ++ " seconds")
  | exited code errors => .ofString s!"Mermaid conversion failed (exit {code}): " ++ errors
  | noOutput => .ofString "Conversion produced no output file"
  | notUtf8 e => .ofString e.message
  | unreadable e =>
    .ofString ((if e.isMalformed then "Invalid converter output: " else "") ++ e.message)
  | noElements => .ofString "Converter output has no elements list"
  | unencodable => .ofString "'utf-8' codec can't encode the text: surrogates not allowed"
  | raised message => .ofString message

end Easel
