import CodeJudge.Json.Decode
import CodeJudge.Json.Reader
/-!
Data from whole JSON texts.
-/
namespace CodeJudge.Json

/-- The data in a text, of which the outline says what is looked at. -/
def decodeText? {α : Type} (item : Decoder α) (o : Outline) (cs : List Char) : Option α :=
  (readDocument o cs).bind fun v => (item v).toOption

end CodeJudge.Json
