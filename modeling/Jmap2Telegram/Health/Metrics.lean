import Jmap2Telegram.Prometheus.Text
import Jmap2Telegram.State.AppState

/-!
# The metrics page

`health.rs`: the counters and gauges the handlers keep (`Metrics`), and the page `render_metrics`
writes of them and of the watchers' registry. A `u64` is a natural number, and an instant is a
number as in the registry. The crate's version, what `/proc` says of the memory, and the time
elapsed since an instant are what a `Scrape` finds outside of the registries; the order in which a
`HashMap` is gone through is any (`Snapshot`).

* `toList_escapePrometheusLabel`: the three replacements in a row escape character by character.
-/

namespace Jmap2Telegram

open Prometheus (Name Help Kind Decimal Value)

/-- A help text that is printed as it is: it has nothing to escape. -/
structure HelpText extends Help where
  plain : text.toList.all (fun c => c != '\\' && c != '\n') = true
  deriving DecidableEq

/-! ### Rendering -/

/-- `escape_prometheus_label`. -/
def escapePrometheusLabel (value : String) : String :=
  if value.toList.any fun c => c == '\\' || c == '"' || c == '\n' then
    Str.replace (Str.replace (Str.replace value '\\' "\\\\") '"' "\\\"") '\n' "\\n"
  else value

/-- `render_labels`. -/
def renderLabels (labels : List (Name × String)) : String :=
  ",".intercalate
    (labels.map fun label => label.1.text ++ "=\"" ++ escapePrometheusLabel label.2 ++ "\"")

/-- The word for a metric's type. -/
def kindText (kind : Kind) : String := String.ofList kind.print

/-- `push_metric_header`. -/
def pushMetricHeader (out : String) (name : Name) (help : HelpText) (kind : Kind) : String :=
  out ++ ("# HELP " ++ name.text ++ " " ++ help.text ++ "\n# TYPE " ++ name.text ++ " " ++
    kindText kind ++ "\n")

/-- `push_metric`. -/
def pushMetric (out : String) (name : Name) (help : HelpText) (kind : Kind) (value : String) :
    String :=
  pushMetricHeader out name help kind ++ (name.text ++ " " ++ value ++ "\n")

/-! ### Counting -/

/-- `Family`: its help text, and its samples by their rendered label sets. -/
structure Metrics.Family where
  help : HelpText
  samples : Map String ℕ

/-- `Metrics`. -/
structure Metrics where
  startTimeSeconds : ℕ
  counters : Map Name Metrics.Family
  accounts : ℕ
  pendingUndos : ℕ

/-- What is given to `inc`. -/
structure Increment where
  name : Name
  help : HelpText
  labels : List (Name × String)

namespace Metrics

/-- `Metrics::new`, at a time. -/
def new (startTimeSeconds : ℕ) : Metrics := ⟨startTimeSeconds, ∅, 0, 0⟩

/-- `inc`. -/
def inc (metrics : Metrics) (i : Increment) : Metrics :=
  let sample := renderLabels i.labels
  let family := metrics.counters[i.name]?.getD ⟨i.help, ∅⟩
  let samples := family.samples.insert sample (family.samples[sample]?.getD 0 + 1)
  { metrics with counters := metrics.counters.insert i.name { family with samples := samples } }

/-- `notification_delivered`. -/
def notificationDelivered (kind : String) : Increment where
  name := ⟨"jmap2telegram_notifications_delivered_total", by decide +kernel⟩
  help := ⟨⟨"Notifications successfully delivered to Telegram.", by decide +kernel⟩,
    by decide +kernel⟩
  labels := [(⟨"kind", by decide +kernel⟩, kind)]

/-- `notification_send_error`. -/
def notificationSendError (kind : String) : Increment where
  name := ⟨"jmap2telegram_notification_send_errors_total", by decide +kernel⟩
  help := ⟨⟨"Notifications that failed to send to Telegram.", by decide +kernel⟩, by decide +kernel⟩
  labels := [(⟨"kind", by decide +kernel⟩, kind)]

/-- `notification_skipped`. -/
def notificationSkipped (kind reason : String) : Increment where
  name := ⟨"jmap2telegram_notifications_skipped_total", by decide +kernel⟩
  help := ⟨⟨"New messages that were not notified about, by the reason they were skipped.",
    by decide +kernel⟩, by decide +kernel⟩
  labels := [(⟨"kind", by decide +kernel⟩, kind), (⟨"reason", by decide +kernel⟩, reason)]

/-- `triage_action`. -/
def triageAction (action outcome : String) : Increment where
  name := ⟨"jmap2telegram_triage_actions_total", by decide +kernel⟩
  help := ⟨⟨"Triage actions taken from notification buttons.", by decide +kernel⟩,
    by decide +kernel⟩
  labels := [(⟨"action", by decide +kernel⟩, action), (⟨"outcome", by decide +kernel⟩, outcome)]

/-- `mark_read`. -/
def markRead (outcome : String) : Increment where
  name := ⟨"jmap2telegram_mark_read_total", by decide +kernel⟩
  help := ⟨⟨"Mark-as-read attempts from notification buttons.", by decide +kernel⟩,
    by decide +kernel⟩
  labels := [(⟨"outcome", by decide +kernel⟩, outcome)]

/-- `undo`. -/
def undo (outcome : String) : Increment where
  name := ⟨"jmap2telegram_undo_total", by decide +kernel⟩
  help := ⟨⟨"Undo attempts on triage actions, by outcome.", by decide +kernel⟩, by decide +kernel⟩
  labels := [(⟨"outcome", by decide +kernel⟩, outcome)]

/-- `watcher_reconnect`. -/
def watcherReconnect : Increment where
  name := ⟨"jmap2telegram_watcher_reconnects_total", by decide +kernel⟩
  help := ⟨⟨"Watcher EventSource reconnection attempts.", by decide +kernel⟩, by decide +kernel⟩
  labels := []

/-- `watcher_sync`. -/
def watcherSync : Increment where
  name := ⟨"jmap2telegram_watcher_syncs_total", by decide +kernel⟩
  help := ⟨⟨"Successful watcher JMAP syncs.", by decide +kernel⟩, by decide +kernel⟩
  labels := []

/-- A counted event: a call of one of these. -/
inductive Counted where
  | notificationDelivered (kind : String)
  | notificationSendError (kind : String)
  | notificationSkipped (kind reason : String)
  | triageAction (action outcome : String)
  | markRead (outcome : String)
  | undo (outcome : String)
  | watcherReconnect
  | watcherSync

/-- What the call gives to `inc`. -/
def Counted.increment : Counted → Increment
  | notificationDelivered kind => Metrics.notificationDelivered kind
  | notificationSendError kind => Metrics.notificationSendError kind
  | notificationSkipped kind reason => Metrics.notificationSkipped kind reason
  | triageAction action outcome => Metrics.triageAction action outcome
  | markRead outcome => Metrics.markRead outcome
  | undo outcome => Metrics.undo outcome
  | watcherReconnect => Metrics.watcherReconnect
  | watcherSync => Metrics.watcherSync

/-- A call of the handlers: an event to count, or a gauge to set. -/
inductive Call where
  | count (event : Counted)
  | setAccounts (n : ℕ)
  | setPendingUndos (n : ℕ)

/-- One call. -/
def apply (metrics : Metrics) : Call → Metrics
  | .count event => metrics.inc event.increment
  | .setAccounts n => { metrics with accounts := n }
  | .setPendingUndos n => { metrics with pendingUndos := n }

/-- A history of calls. -/
def run (metrics : Metrics) (calls : List Call) : Metrics := calls.foldl apply metrics

end Metrics

/-! ### The page -/

/-- What a scrape finds outside of the registries: `CARGO_PKG_VERSION`,
`process_resident_memory_bytes`, and the seconds since a watcher's last activity. -/
structure Scrape where
  version : String
  residentMemory : Option ℕ
  elapsed : String → ℕ → Decimal

/-- The registry in the order a `HashMap` is gone through. -/
structure Snapshot (health : Health) where
  entries : List (String × WatcherStatus)
  perm : entries.Perm health.toList

/-- A number, as `to_string` writes it. -/
def decimalText (d : Decimal) : String := String.ofList d.print

def startTimeGauge : Name := ⟨"jmap2telegram_start_time_seconds", by decide +kernel⟩

def accountsGauge : Name := ⟨"jmap2telegram_accounts", by decide +kernel⟩

def pendingUndosGauge : Name := ⟨"jmap2telegram_pending_undos", by decide +kernel⟩

def residentMemoryGauge : Name := ⟨"process_resident_memory_bytes", by decide +kernel⟩

def startTimeHelp : HelpText :=
  ⟨⟨"Start time of the process since unix epoch in seconds.", by decide +kernel⟩, by decide +kernel⟩

def accountsHelp : HelpText :=
  ⟨⟨"Number of chats currently holding a JMAP account.", by decide +kernel⟩, by decide +kernel⟩

def pendingUndosHelp : HelpText :=
  ⟨⟨"Undo slots currently open (triage actions still reversible).", by decide +kernel⟩,
    by decide +kernel⟩

def residentMemoryHelp : HelpText :=
  ⟨⟨"Resident memory size in bytes.", by decide +kernel⟩, by decide +kernel⟩

/-- The text that announces the build information. -/
def buildInfoHeader : String :=
  "# HELP jmap2telegram_build_info Build information as a constant 1, labeled with the crate " ++
    "version.\n# TYPE jmap2telegram_build_info gauge\n"

/-- `Metrics::render`. -/
def Metrics.render (metrics : Metrics) (scrape : Scrape) (out : String) : String :=
  let out := out ++ buildInfoHeader
  let out := out ++ ("jmap2telegram_build_info\x7bversion=\"" ++
    escapePrometheusLabel scrape.version ++ "\"\x7d 1\n")
  let out := pushMetric out startTimeGauge startTimeHelp .gauge (toString metrics.startTimeSeconds)
  let out := pushMetric out accountsGauge accountsHelp .gauge (toString metrics.accounts)
  let out := pushMetric out pendingUndosGauge pendingUndosHelp .gauge
    (toString metrics.pendingUndos)
  let out := match scrape.residentMemory with
    | some rss => pushMetric out residentMemoryGauge residentMemoryHelp .gauge (toString rss)
    | none => out
  metrics.counters.toList.foldl (fun out entry =>
    entry.2.samples.toList.foldl (fun out sample =>
      if sample.1.isEmpty then out ++ (entry.1.text ++ " " ++ toString sample.2 ++ "\n")
      else out ++ (entry.1.text ++ "\x7b" ++ sample.1 ++ "\x7d " ++ toString sample.2 ++ "\n"))
      (pushMetricHeader out entry.1 entry.2.help .counter)) out

/-- The seconds since a watcher's last activity, or `+Inf`. -/
def ageText (scrape : Scrape) (key : String) (status : WatcherStatus) : String :=
  match status.lastActivity with
  | some t => decimalText (scrape.elapsed key t)
  | none => "+Inf"

/-- The texts that announce what follows on the page. -/
def registeredHeader : String :=
  "# HELP jmap2telegram_watchers_registered Number of JMAP accounts currently watched.\n" ++
    "# TYPE jmap2telegram_watchers_registered gauge\n"

def connectedHeader : String :=
  "# HELP jmap2telegram_watchers_connected Number of watchers with an open EventSource " ++
    "connection.\n# TYPE jmap2telegram_watchers_connected gauge\n"

def lastActivityHeader : String :=
  "# HELP jmap2telegram_last_activity_age_seconds Seconds since each watcher's last " ++
    "successful JMAP sync.\n# TYPE jmap2telegram_last_activity_age_seconds gauge\n"

/-- `render_metrics`. -/
def renderMetrics {health : Health} (snapshot : Snapshot health) (metrics : Metrics)
    (scrape : Scrape) : String :=
  let connected := snapshot.entries.countP fun entry => entry.2.connected
  let out := registeredHeader
  let out := out ++ ("jmap2telegram_watchers_registered " ++ toString snapshot.entries.length ++
    "\n")
  let out := out ++ connectedHeader
  let out := out ++ ("jmap2telegram_watchers_connected " ++ toString connected ++ "\n")
  let out := out ++ lastActivityHeader
  let out := snapshot.entries.foldl (fun out entry =>
    out ++ ("jmap2telegram_last_activity_age_seconds\x7bwatcher=\"" ++
      escapePrometheusLabel entry.1 ++ "\"\x7d " ++ ageText scrape entry.1 entry.2 ++ "\n")) out
  metrics.render scrape out

/-! ### Escaping -/

/-- One character through the three replacements. -/
private theorem replacements_singleton (c : Char) :
    ((if c = '\\' then "\\\\".toList else [c]).flatMap fun c =>
        (if c = '"' then "\\\"".toList else [c]).flatMap fun c =>
          if c = '\n' then "\\n".toList else [c]) = Prometheus.escapeChar c := by
  rw [Prometheus.escapeChar]
  by_cases hbackslash : c = '\\'
  · subst hbackslash
    decide
  · by_cases hquote : c = '"'
    · subst hquote
      decide
    · by_cases hfeed : c = '\n'
      · subst hfeed
        decide
      · simp [hbackslash, hquote, hfeed]

/-- The backslashes are doubled first, so that those the other two replacements put are not: the
three in a row escape character by character. -/
theorem toList_escapePrometheusLabel (value : String) :
    (escapePrometheusLabel value).toList = Prometheus.escape value.toList := by
  rw [escapePrometheusLabel, Prometheus.escape]
  split_ifs with hany
  · simp only [Str.toList_replace, List.flatMap_assoc]
    exact congrArg value.toList.flatMap (funext replacements_singleton)
  -- nothing to escape
  · have hplain : ∀ c ∈ value.toList, Prometheus.escapeChar c = [c] := by
      intro c hc
      have h := List.any_eq_false.mp (Bool.eq_false_iff.mpr hany) c hc
      simp only [Bool.or_eq_true, beq_iff_eq, not_or] at h
      rw [Prometheus.escapeChar, if_neg h.1.1, if_neg h.1.2, if_neg h.2]
    rw [List.flatMap_congr hplain, List.flatMap_singleton']

/-- What arrives already escaped has its backslashes doubled. -/
example : escapePrometheusLabel "a\\nb" = "a\\\\nb" := by decide +kernel

theorem toList_renderLabels (labels : List (Name × String)) :
    (renderLabels labels).toList = Prometheus.printLabels labels := by
  rw [renderLabels, String.toList_intercalate, Prometheus.printLabels, List.map_map]
  refine congrArg _ (List.map_congr_left fun label _ => ?_)
  simp [Prometheus.printLabel, toList_escapePrometheusLabel]

/-- The label set a rendered label set stands for. -/
def decodeLabels (text : String) : List (Name × String) :=
  ((Prometheus.readLabels (text.toList.length + 1) (text.toList ++ ['\x7d'])).map Prod.fst).getD []

@[simp]
theorem decodeLabels_renderLabels (labels : List (Name × String)) :
    decodeLabels (renderLabels labels) = labels := by
  have hlength := Prometheus.length_le_length_printLabels labels
  rw [decodeLabels, toList_renderLabels,
    Prometheus.readLabels_printLabels labels (Nat.lt_succ_of_le hlength)]
  rfl

/-- Label sets that render alike are the same. -/
theorem renderLabels_injective : Function.Injective renderLabels :=
  Function.LeftInverse.injective decodeLabels_renderLabels

end Jmap2Telegram
