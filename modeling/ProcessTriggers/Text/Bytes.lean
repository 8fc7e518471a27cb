import ProcessTriggers.Error
import ProcessTriggers.Text.Utf8

/-!
The bytes of a text in UTF-8, which has none for half a surrogate pair.
-/

namespace ProcessTriggers.Text

/-- What is wrong with a text that holds halves: the first of them with the others next to it. -/
def halvesMessage (cs : List Char) : String :=
  let start := (cs.takeWhile (!isHalf ·)).length
  let halves := (cs.drop start).takeWhile isHalf
  let what := match halves with
    | [c] =>
      "character '" ++ String.ofList (escapeNumbered (codePoint c)) ++ s!"' in position {start}"
    | _ => s!"characters in position {start}-{start + halves.length - 1}"
  "'utf-8' codec can't encode " ++ what ++ ": surrogates not allowed"

def bytesOf (s : String) : Except Error (List UInt8) :=
  if hasHalf s then .error (.foreign .unencodable (halvesMessage s.toList)) else .ok (encodeUtf8 s)

end ProcessTriggers.Text
