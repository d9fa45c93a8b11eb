import Jmap2Telegram.Health.Metrics

/-!
# The metrics page reads back

The page is a list of families, each printed as the text format prints it; so a reader of the format
finds the families again, whatever the watchers' keys are.

* `toList_renderMetrics`: the page is the families, printed.
* `Metrics.Counts`: what the counters hold after a history, by induction along it.
* `metrics_page_decodes`: what a reader of the page finds.
-/

namespace Jmap2Telegram

open Prometheus (Name Help Kind Decimal Value Line)

/-! ### The families of the page -/

def watchersRegistered : Name := ⟨"jmap2telegram_watchers_registered", by decide +kernel⟩

def watchersConnected : Name := ⟨"jmap2telegram_watchers_connected", by decide +kernel⟩

def lastActivityAge : Name := ⟨"jmap2telegram_last_activity_age_seconds", by decide +kernel⟩

def buildInfo : Name := ⟨"jmap2telegram_build_info", by decide +kernel⟩

def watchersRegisteredHelp : HelpText :=
  ⟨⟨"Number of JMAP accounts currently watched.", by decide +kernel⟩, by decide +kernel⟩

def watchersConnectedHelp : HelpText :=
  ⟨⟨"Number of watchers with an open EventSource connection.", by decide +kernel⟩,
    by decide +kernel⟩

def lastActivityAgeHelp : HelpText :=
  ⟨⟨"Seconds since each watcher's last successful JMAP sync.", by decide +kernel⟩,
    by decide +kernel⟩

def buildInfoHelp : HelpText :=
  ⟨⟨"Build information as a constant 1, labeled with the crate version.", by decide +kernel⟩,
    by decide +kernel⟩

/-- A gauge without labels. -/
def gaugeFamily (name : Name) (help : HelpText) (n : ℕ) : Prometheus.Family :=
  ⟨name, help.toHelp, .gauge, [([], .ofNat n)]⟩

/-- The seconds since a watcher's last activity, or `+Inf`. -/
def ageValue (scrape : Scrape) (key : String) (status : WatcherStatus) : Value :=
  match status.lastActivity with
  | some t => .decimal (scrape.elapsed key t)
  | none => .posInf

/-- A watcher's sample: its key as a label, and its age. -/
def ageSample (scrape : Scrape) (entry : String × WatcherStatus) : List (Name × String) × Value :=
  ([(⟨"watcher", by decide +kernel⟩, entry.1)], ageValue scrape entry.1 entry.2)

def ageFamily (scrape : Scrape) (entries : List (String × WatcherStatus)) : Prometheus.Family :=
  ⟨lastActivityAge, lastActivityAgeHelp.toHelp, .gauge, entries.map (ageSample scrape)⟩

def buildInfoFamily (scrape : Scrape) : Prometheus.Family :=
  ⟨buildInfo, buildInfoHelp.toHelp, .gauge,
    [([(⟨"version", by decide +kernel⟩, scrape.version)], .ofNat 1)]⟩

/-- A counter, with its label sets decoded. -/
def counterFamily (entry : Name × Metrics.Family) : Prometheus.Family :=
  ⟨entry.1, entry.2.help.toHelp, .counter,
    entry.2.samples.toList.map fun sample => (decodeLabels sample.1, .ofNat sample.2)⟩

/-- The families of the handlers' registry. -/
def Metrics.families (metrics : Metrics) (scrape : Scrape) : List Prometheus.Family :=
  [buildInfoFamily scrape, gaugeFamily startTimeGauge startTimeHelp metrics.startTimeSeconds,
    gaugeFamily accountsGauge accountsHelp metrics.accounts,
    gaugeFamily pendingUndosGauge pendingUndosHelp metrics.pendingUndos] ++
  (scrape.residentMemory.map (gaugeFamily residentMemoryGauge residentMemoryHelp)).toList ++
  metrics.counters.toList.map counterFamily

/-- The families of the page: of the watchers' keys only the ages depend. -/
def pageFamilies (entries : List (String × WatcherStatus)) (registered connected : ℕ)
    (metrics : Metrics) (scrape : Scrape) : List Prometheus.Family :=
  gaugeFamily watchersRegistered watchersRegisteredHelp registered ::
    gaugeFamily watchersConnected watchersConnectedHelp connected ::
    ageFamily scrape entries :: metrics.families scrape

/-! ### The page is the families, printed -/

/-- The help texts have nothing to escape. -/
theorem HelpText.escapeHelp_text (help : HelpText) :
    Prometheus.escapeHelp help.text.toList = help.text.toList := by
  have hplain : ∀ c ∈ help.text.toList, Prometheus.escapeHelpChar c = [c] := by
    intro c hc
    have h := List.all_eq_true.mp help.plain c hc
    simp only [Bool.and_eq_true, bne_iff_ne] at h
    rw [Prometheus.escapeHelpChar, if_neg h.1, if_neg h.2]
  rw [Prometheus.escapeHelp, List.flatMap_congr hplain, List.flatMap_singleton']

/-- `push_metric_header` prints the two comment lines of a family. -/
theorem toList_pushMetricHeader (out : String) (name : Name) (help : HelpText) (kind : Kind) :
    (pushMetricHeader out name help kind).toList =
      out.toList ++ Prometheus.printPage [.help name help.toHelp, .type name kind] := by
  simp [pushMetricHeader, kindText, Line.print, help.escapeHelp_text]

/-- A header that the program has as one text. -/
theorem toList_header {header : String} {name : Name} {help : HelpText} {kind : Kind}
    (h : header = pushMetricHeader "" name help kind) :
    header.toList = Prometheus.printPage [.help name help.toHelp, .type name kind] := by
  rw [h, toList_pushMetricHeader, String.toList_empty, List.nil_append]

/-- `push_metric` prints a family with one sample. -/
theorem toList_pushMetric (out : String) (name : Name) (help : HelpText) (n : ℕ) :
    (pushMetric out name help .gauge (toString n)).toList =
      out.toList ++ Prometheus.printPage (gaugeFamily name help n).lines := by
  rw [pushMetric, String.toList_append, toList_pushMetricHeader]
  simp [gaugeFamily, Prometheus.Family.lines, Line.print, Prometheus.Sample.print]

theorem renderLabels_eq_empty_iff {labels : List (Name × String)} :
    renderLabels labels = "" ↔ labels = [] :=
  ⟨fun h => renderLabels_injective (h.trans (by decide)), fun h => by rw [h]; decide⟩

/-- Every sample of every counter is kept under a rendered label set. -/
def Metrics.Rendered (metrics : Metrics) : Prop :=
  ∀ entry ∈ metrics.counters.toList, ∀ sample ∈ entry.2.samples.toList,
    ∃ labels, sample.1 = renderLabels labels

/-- A counter's samples, as they are written after its header. -/
theorem toList_counter {entry : Name × Metrics.Family}
    (hrendered : ∀ sample ∈ entry.2.samples.toList, ∃ labels, sample.1 = renderLabels labels)
    (out : String) :
    (entry.2.samples.toList.foldl (fun out sample =>
      if sample.1.isEmpty then out ++ (entry.1.text ++ " " ++ toString sample.2 ++ "\n")
      else out ++ (entry.1.text ++ "\x7b" ++ sample.1 ++ "\x7d " ++ toString sample.2 ++ "\n"))
      (pushMetricHeader out entry.1 entry.2.help .counter)).toList =
    out.toList ++ Prometheus.printPage (counterFamily entry).lines := by
  have hsample : ∀ out : String, ∀ sample ∈ entry.2.samples.toList,
      (if sample.1.isEmpty then out ++ (entry.1.text ++ " " ++ toString sample.2 ++ "\n")
        else out ++ (entry.1.text ++ "\x7b" ++ sample.1 ++ "\x7d " ++ toString sample.2 ++
          "\n")).toList =
        out.toList ++ Prometheus.printPage
          [.sample ⟨entry.1, decodeLabels sample.1, .ofNat sample.2⟩] := by
    intro out sample hmem
    obtain ⟨labels, hlabels⟩ := hrendered sample hmem
    rw [hlabels, decodeLabels_renderLabels]
    by_cases hempty : labels = []
    · subst hempty
      rw [if_pos (by decide)]
      simp [Line.print, Prometheus.Sample.print]
    · have hne : ¬(renderLabels labels).isEmpty = true := by
        rw [String.isEmpty_iff, renderLabels_eq_empty_iff]
        exact hempty
      rw [if_neg hne]
      simp [Line.print, Prometheus.Sample.print, hempty, toList_renderLabels]
  rw [Str.toList_foldl_append hsample, toList_pushMetricHeader, counterFamily,
    Prometheus.Family.lines]
  simp [Prometheus.printPage, List.flatMap_map, Function.comp_def]

/-- A line with one label, cut where the program cuts it. -/
theorem print_labelled (name label : Name) (value : String) (v : Value) :
    Prometheus.printPage [.sample ⟨name, [(label, value)], v⟩] =
      (name.text.toList ++ '\x7b' :: (label.text.toList ++ ['=', '"'])) ++
        (Prometheus.escape value.toList ++ (['"', '\x7d', ' '] ++ (v.print ++ ['\n']))) := by
  simp [Line.print, Prometheus.Sample.print, Prometheus.printLabels, Prometheus.printLabel]

/-- The build information, which the source writes out by hand. -/
theorem toList_buildInfo (scrape : Scrape) (out : String) :
    (out ++ buildInfoHeader ++ ("jmap2telegram_build_info\x7bversion=\"" ++
      escapePrometheusLabel scrape.version ++ "\"\x7d 1\n")).toList =
      out.toList ++ Prometheus.printPage (buildInfoFamily scrape).lines := by
  have hheader : buildInfoHeader.toList =
      Prometheus.printPage [.help buildInfo buildInfoHelp.toHelp, .type buildInfo .gauge] :=
    toList_header (by decide +kernel)
  have hopen : "jmap2telegram_build_info\x7bversion=\"".toList =
      buildInfo.text.toList ++ '\x7b' :: ("version".toList ++ ['=', '"']) := by decide +kernel
  have hclose : "\"\x7d 1\n".toList = ['"', '\x7d', ' '] ++ ((Value.ofNat 1).print ++ ['\n']) := by
    decide +kernel
  have hlines : (buildInfoFamily scrape).lines =
      [.help buildInfo buildInfoHelp.toHelp, .type buildInfo .gauge] ++
        [.sample ⟨buildInfo, [(⟨"version", by decide +kernel⟩, scrape.version)], .ofNat 1⟩] := rfl
  rw [hlines, Prometheus.printPage_append, ← hheader, print_labelled, ← hopen, ← hclose]
  simp only [String.toList_append, toList_escapePrometheusLabel, List.append_assoc]

/-- The counters and gauges are printed family by family. -/
theorem toList_render {metrics : Metrics} (hrendered : metrics.Rendered) (scrape : Scrape)
    (out : String) : (metrics.render scrape out).toList =
      out.toList ++ Prometheus.printPage
        ((metrics.families scrape).flatMap Prometheus.Family.lines) := by
  have hcounters : Prometheus.printPage
      ((metrics.counters.toList.map counterFamily).flatMap Prometheus.Family.lines) =
      metrics.counters.toList.flatMap fun entry =>
        Prometheus.printPage (counterFamily entry).lines := by
    simp [Prometheus.printPage, List.flatMap_map, List.flatMap_assoc]
  rw [Metrics.families, List.flatMap_append, List.flatMap_append, Prometheus.printPage_append,
    Prometheus.printPage_append, hcounters]
  unfold Metrics.render
  dsimp only
  rw [Str.toList_foldl_append fun out entry hentry => toList_counter (hrendered entry hentry) out]
  rcases scrape.residentMemory with - | rss
  · simp only [toList_pushMetric, toList_buildInfo, List.flatMap_cons, List.flatMap_nil,
      Option.map_none, Option.toList_none, Prometheus.printPage_append, Prometheus.printPage_nil,
      List.append_assoc, List.nil_append]
  · simp only [toList_pushMetric, toList_buildInfo, List.flatMap_cons, List.flatMap_nil,
      Option.map_some, Option.toList_some, Prometheus.printPage_append, Prometheus.printPage_nil,
      List.append_assoc, List.nil_append]

/-- The age is printed as a value, `+Inf` for a watcher that was never synced. -/
theorem toList_ageText (scrape : Scrape) (key : String) (status : WatcherStatus) :
    (ageText scrape key status).toList = (ageValue scrape key status).print := by
  rw [ageText, ageValue]
  rcases status.lastActivity with - | t
  · rfl
  · exact String.toList_ofList

/-- **The page is its families, printed.** -/
theorem toList_renderMetrics {health : Health} (snapshot : Snapshot health) {metrics : Metrics}
    (hrendered : metrics.Rendered) (scrape : Scrape) :
    (renderMetrics snapshot metrics scrape).toList = Prometheus.printPage
      ((pageFamilies snapshot.entries snapshot.entries.length
        (snapshot.entries.countP fun entry => entry.2.connected) metrics scrape).flatMap
          Prometheus.Family.lines) := by
  have hregistered : registeredHeader.toList = Prometheus.printPage
      [.help watchersRegistered watchersRegisteredHelp.toHelp,
        .type watchersRegistered .gauge] := toList_header (by decide +kernel)
  have hconnected : connectedHeader.toList = Prometheus.printPage
      [.help watchersConnected watchersConnectedHelp.toHelp,
        .type watchersConnected .gauge] := toList_header (by decide +kernel)
  have hactivity : lastActivityHeader.toList = Prometheus.printPage
      [.help lastActivityAge lastActivityAgeHelp.toHelp, .type lastActivityAge .gauge] :=
    toList_header (by decide +kernel)
  have hage : ∀ out : String, ∀ entry ∈ snapshot.entries,
      (out ++ ("jmap2telegram_last_activity_age_seconds\x7bwatcher=\"" ++
        escapePrometheusLabel entry.1 ++ "\"\x7d " ++ ageText scrape entry.1 entry.2 ++
          "\n")).toList =
        out.toList ++ Prometheus.printPage
          [.sample ⟨lastActivityAge, (ageSample scrape entry).1, (ageSample scrape entry).2⟩] := by
    intro out entry _
    have hopen : "jmap2telegram_last_activity_age_seconds\x7bwatcher=\"".toList =
        lastActivityAge.text.toList ++ '\x7b' :: ("watcher".toList ++ ['=', '"']) := by
      decide +kernel
    have hclose : "\"\x7d ".toList = ['"', '\x7d', ' '] := by decide +kernel
    have hfeed : "\n".toList = ['\n'] := by decide
    rw [ageSample, print_labelled, ← hopen, ← hclose, ← hfeed]
    simp only [String.toList_append, toList_escapePrometheusLabel, toList_ageText,
      List.append_assoc]
  have hcount : ∀ (name : Name) (text : String) (n : ℕ), text.toList = name.text.toList ++ [' '] →
      (text ++ toString n ++ "\n").toList =
        Prometheus.printPage [.sample ⟨name, [], .ofNat n⟩] := by
    intro name text n htext
    simp [htext, Line.print, Prometheus.Sample.print]
  have hnumber := hcount watchersRegistered "jmap2telegram_watchers_registered "
    snapshot.entries.length (by decide +kernel)
  have hopen := hcount watchersConnected "jmap2telegram_watchers_connected "
    (snapshot.entries.countP fun entry => entry.2.connected) (by decide +kernel)
  rw [renderMetrics, toList_render hrendered, Str.toList_foldl_append hage]
  rw [String.toList_append, String.toList_append, String.toList_append, String.toList_append,
    hregistered, hconnected, hactivity, hnumber, hopen]
  simp [pageFamilies, Prometheus.Family.lines, gaugeFamily, ageFamily, List.flatMap_map,
    Prometheus.printPage, Function.comp_def]

/-! ### What the counters hold -/

namespace Metrics

/-- The number of increments of a counter under a label set. -/
def increments (calls : List Call) (name : Name) (labels : List (Name × String)) : ℕ :=
  calls.countP fun
    | .count event => decide (event.increment.name = name ∧ event.increment.labels = labels)
    | _ => false

/-- Every counter's name ends in `_total`, which no gauge's does. -/
theorem Counted.total_suffix (event : Counted) :
    "_total".toList <:+ event.increment.name.text.toList := by
  cases event <;>
    simp only [increment, Metrics.notificationDelivered, Metrics.notificationSendError,
      Metrics.notificationSkipped, Metrics.triageAction, Metrics.markRead, Metrics.undo,
      Metrics.watcherReconnect, Metrics.watcherSync] <;>
    decide +kernel

/-- What is stored for a counter under a rendered label set. -/
def sample? (metrics : Metrics) (name : Name) (text : String) : Option ℕ :=
  metrics.counters[name]?.bind fun family : Metrics.Family => family.samples[text]?

/-- What the counters hold after a history: the counted events' names and help texts, and under each
rendered label set the number of increments. -/
structure Counts (metrics : Metrics) (calls : List Call) : Prop where
  help : ∀ (name : Name) (family : Metrics.Family), metrics.counters[name]? = some family →
    ∃ event : Counted, event.increment.name = name ∧ event.increment.help = family.help
  sample : ∀ name labels, metrics.sample? name (renderLabels labels) =
    if increments calls name labels = 0 then none else some (increments calls name labels)
  rendered : ∀ (name : Name) (family : Metrics.Family) (text : String),
    metrics.counters[name]? = some family → text ∈ family.samples →
      ∃ labels, text = renderLabels labels

/-- A new registry counts no call. -/
theorem counts_new (startTimeSeconds : ℕ) : Counts (new startTimeSeconds) [] where
  help name family h := by simp [new] at h
  sample name labels := by simp [sample?, new, increments]
  rendered name family text h := by simp [new] at h

/-- The increments of one more call are added. -/
theorem increments_concat (calls : List Call) (call : Call) (name : Name)
    (labels : List (Name × String)) :
    increments (calls ++ [call]) name labels =
      increments calls name labels + increments [call] name labels := by
  rw [increments, List.countP_append]
  rfl

/-- A call increments the series of its event. -/
theorem increments_count (event : Counted) (name : Name) (labels : List (Name × String)) :
    increments [.count event] name labels =
      if event.increment.name = name ∧ event.increment.labels = labels then 1 else 0 := by
  simp [increments, List.countP_cons]

/-- The samples of the family an increment goes to. -/
private theorem getElem?_family {metrics : Metrics} {i : Increment} {text : String} :
    (metrics.counters[i.name]?.getD ⟨i.help, ∅⟩).samples[text]? = metrics.sample? i.name text := by
  rw [sample?]
  rcases metrics.counters[i.name]? with - | family
  · simp
  · rfl

/-- An event is counted under its own name and labels. -/
theorem Counts.inc {metrics : Metrics} {calls : List Call} (h : Counts metrics calls)
    (event : Counted) :
    Counts (metrics.inc event.increment) (calls ++ [.count event]) := by
  generalize hi : event.increment = i
  refine ⟨fun name family hfamily => ?_, fun name labels => ?_,
    fun name family text hfamily htext => ?_⟩
  · rw [Metrics.inc, Map.getElem?_insert] at hfamily
    split_ifs at hfamily with hname
    · cases hfamily
      rcases hold : metrics.counters[i.name]? with - | old
      · exact ⟨event, hi ▸ hname, by rw [hi]; rfl⟩
      · exact hname ▸ h.help i.name old hold
    · exact h.help name family hfamily
  · have hsample := h.sample name labels
    rw [increments_concat, increments_count, hi, sample?, Metrics.inc, Map.getElem?_insert]
    by_cases hname : i.name = name
    · subst hname
      rw [if_pos rfl, Option.bind_some, Map.getElem?_insert]
      by_cases hlabels : i.labels = labels
      · subst hlabels
        have hgetD : (metrics.sample? i.name (renderLabels i.labels)).getD 0 =
            increments calls i.name i.labels := by
          rw [hsample]
          split_ifs with hzero
          · exact hzero.symm
          · rfl
        have hone : (if i.name = i.name ∧ i.labels = i.labels then 1 else 0) = 1 :=
          if_pos ⟨rfl, rfl⟩
        rw [if_pos rfl, getElem?_family, hgetD, hone, if_neg (Nat.succ_ne_zero _)]
      · have hne : renderLabels i.labels ≠ renderLabels labels := fun heq =>
          hlabels (renderLabels_injective heq)
        have hzero : (if i.name = i.name ∧ i.labels = labels then 1 else 0) = 0 :=
          if_neg fun heq => hlabels heq.2
        rw [if_neg hne, getElem?_family, hsample, hzero, Nat.add_zero]
    · have hzero : (if i.name = name ∧ i.labels = labels then 1 else 0) = 0 :=
        if_neg fun heq => hname heq.1
      rw [if_neg hname, ← sample?, hsample, hzero, Nat.add_zero]
  · rw [Metrics.inc, Map.getElem?_insert] at hfamily
    split_ifs at hfamily with hname
    · cases hfamily
      rw [Std.ExtTreeMap.mem_insert, Std.LawfulEqOrd.compare_eq_iff_eq] at htext
      rcases htext with rfl | htext
      · exact ⟨i.labels, rfl⟩
      · rcases hold : metrics.counters[i.name]? with - | old
        · simp [hold] at htext
        · rw [hold] at htext
          exact h.rendered i.name old text hold htext
    · exact h.rendered name family text hfamily htext

/-- A call keeps the registry a count of the calls. -/
theorem Counts.apply {metrics : Metrics} {calls : List Call} (h : Counts metrics calls)
    (call : Call) : Counts (metrics.apply call) (calls ++ [call]) := by
  cases call with
  | count event => exact h.inc event
  | setAccounts n | setPendingUndos n =>
    refine ⟨h.help, fun name labels => ?_, h.rendered⟩
    rw [increments_concat]
    exact h.sample name labels

/-- **Every history** leaves the counters with its increments. -/
theorem counts_run (startTimeSeconds : ℕ) (calls : List Call) :
    Counts ((new startTimeSeconds).run calls) calls := by
  induction calls using List.reverseRecOn with
  | nil => exact counts_new startTimeSeconds
  | append_singleton calls call ih =>
    rw [run, List.foldl_append]
    exact ih.apply call

/-- `inc` as the machine counts, in 64 bits. -/
def incU64 (metrics : Metrics) (i : Increment) : Metrics :=
  let sample := renderLabels i.labels
  let family := metrics.counters[i.name]?.getD ⟨i.help, ∅⟩
  let samples := family.samples.insert sample ((family.samples[sample]?.getD 0 + 1) % 2 ^ 64)
  { metrics with counters := metrics.counters.insert i.name { family with samples := samples } }

/-- One call, counted in 64 bits. -/
def applyU64 (metrics : Metrics) : Call → Metrics
  | .count event => metrics.incU64 event.increment
  | .setAccounts n => { metrics with accounts := n }
  | .setPendingUndos n => { metrics with pendingUndos := n }

/-- A history of calls, counted in 64 bits. -/
def runU64 (metrics : Metrics) (calls : List Call) : Metrics := calls.foldl applyU64 metrics

/-- A counter that is not full yet is counted up as a natural number. -/
theorem Counts.incU64 {metrics : Metrics} {calls : List Call} (h : Counts metrics calls)
    (hlength : calls.length + 1 < 2 ^ 64) (event : Counted) :
    metrics.incU64 event.increment = metrics.inc event.increment := by
  have hle : increments calls event.increment.name event.increment.labels ≤ calls.length :=
    List.countP_le_length
  have hgetD : (metrics.sample? event.increment.name (renderLabels event.increment.labels)).getD 0 ≤
      calls.length := by
    rw [h.sample]
    split_ifs
    · exact Nat.zero_le _
    · exact hle
  rw [Metrics.incU64, Metrics.inc, getElem?_family, Nat.mod_eq_of_lt (by omega)]

/-- **The width of the counters** does not show in a history of fewer than `2 ^ 64` calls. -/
theorem runU64_eq_run (startTimeSeconds : ℕ) {calls : List Call}
    (hlength : calls.length < 2 ^ 64) :
    (new startTimeSeconds).runU64 calls = (new startTimeSeconds).run calls := by
  induction calls using List.reverseRecOn with
  | nil => rw [runU64, run, List.foldl_nil, List.foldl_nil]
  | append_singleton calls call ih =>
    rw [List.length_append, List.length_singleton] at hlength
    have hfewer : calls.length < 2 ^ 64 := by omega
    have hcalls := ih hfewer
    have hcounts := counts_run startTimeSeconds calls
    rw [runU64, run] at hcalls
    rw [run] at hcounts
    rw [runU64, run, List.foldl_append, List.foldl_append, hcalls]
    generalize calls.foldl apply (new startTimeSeconds) = metrics at hcounts ⊢
    rw [List.foldl_cons, List.foldl_cons, List.foldl_nil, List.foldl_nil]
    cases call with
    | count event =>
      rw [applyU64, apply]
      exact hcounts.incU64 hlength event
    | setAccounts n | setPendingUndos n => rw [applyU64, apply]

/-- Such a registry has nothing but series that are rendered. -/
theorem Counts.mem_rendered {metrics : Metrics} {calls : List Call} (h : Counts metrics calls) :
    metrics.Rendered := by
  intro entry hentry sample hsample
  rw [Std.ExtTreeMap.mem_toList_iff_getElem?_eq_some] at hentry hsample
  exact h.rendered entry.1 entry.2 sample.1 hentry (Map.mem_of_getElem? hsample)

end Metrics

/-! ### What a reader finds -/

section

variable {entries : List (String × WatcherStatus)} {registered connected : ℕ} {metrics : Metrics}
  {calls : List Metrics.Call} {scrape : Scrape}

/-- The names of the gauges. -/
def gaugeNames : List Name :=
  [watchersRegistered, watchersConnected, lastActivityAge, buildInfo, startTimeGauge, accountsGauge,
    pendingUndosGauge, residentMemoryGauge]

/-- The names of the page's families: those of gauges, then the counters'. -/
theorem exists_map_name_pageFamilies (entries : List (String × WatcherStatus))
    (registered connected : ℕ) (metrics : Metrics) (scrape : Scrape) :
    ∃ gauges : List Name, gauges.Sublist gaugeNames ∧
      (pageFamilies entries registered connected metrics scrape).map Prometheus.Family.name =
        gauges ++ metrics.counters.keys := by
  have hcounters : (metrics.counters.toList.map counterFamily).map Prometheus.Family.name =
      metrics.counters.keys := by
    rw [List.map_map, ← Std.ExtTreeMap.map_fst_toList_eq_keys]
    rfl
  rw [pageFamilies, Metrics.families]
  simp only [List.map_cons, List.map_append, hcounters, List.map_nil]
  rcases scrape.residentMemory with - | rss
  · exact ⟨gaugeNames.take 7, List.take_sublist 7 gaugeNames, rfl⟩
  · exact ⟨gaugeNames, List.Sublist.refl _, rfl⟩

/-- No gauge is named like a counter. -/
theorem not_mem_gaugeNames (event : Metrics.Counted) : event.increment.name ∉ gaugeNames := by
  have hnone : ∀ name ∈ gaugeNames, ¬"_total".toList <:+ name.text.toList := by
    unfold gaugeNames
    decide +kernel
  exact fun hmem => hnone _ hmem event.total_suffix

/-- **No name is used twice**, whatever has been counted. -/
theorem nodup_pageFamilies (h : metrics.Counts calls) :
    ((pageFamilies entries registered connected metrics scrape).map
      Prometheus.Family.name).Nodup := by
  obtain ⟨gauges, hgauges, hnames⟩ :=
    exists_map_name_pageFamilies entries registered connected metrics scrape
  have hnodup : gaugeNames.Nodup := by
    unfold gaugeNames
    decide +kernel
  rw [hnames]
  refine List.nodup_append'.mpr
    ⟨hnodup.sublist hgauges, Std.ExtTreeMap.nodup_keys, fun name hgauge hname => ?_⟩
  obtain ⟨family, hfamily⟩ := Map.mem_iff_exists.mp (Std.ExtTreeMap.mem_keys.mp hname)
  obtain ⟨event, rfl, -⟩ := h.help name family hfamily
  exact not_mem_gaugeNames event (hgauges.subset hgauge)

/-- A watcher's sample, and not a line of another family. -/
def isAgeLine : Line → Bool
  | .sample s => s.name = lastActivityAge
  | _ => false

/-- Without the watchers' samples the page is that of no watchers, with the same counts. -/
theorem filter_pageFamilies (h : metrics.Counts calls) :
    ((pageFamilies entries registered connected metrics scrape).flatMap
        Prometheus.Family.lines).filter (fun l => !isAgeLine l) =
      (pageFamilies [] registered connected metrics scrape).flatMap Prometheus.Family.lines := by
  have hkeep : ∀ family : Prometheus.Family, family.name ≠ lastActivityAge →
      family.lines.filter (fun l => !isAgeLine l) = family.lines := by
    intro family hname
    refine List.filter_eq_self.mpr fun l hl => ?_
    simp only [Prometheus.Family.lines, List.mem_cons, List.mem_map] at hl
    rcases hl with rfl | rfl | ⟨s, -, rfl⟩ <;> simp [isAgeLine, hname]
  have hages : (ageFamily scrape entries).lines.filter (fun l => !isAgeLine l) =
      (ageFamily scrape []).lines := by
    simp [ageFamily, Prometheus.Family.lines, isAgeLine, List.filter_map, Function.comp_def]
  have hrest : ∀ family ∈ metrics.families scrape, family.name ≠ lastActivityAge := by
    intro family hfamily hname
    have hnodup : ((pageFamilies entries registered connected metrics scrape).map
        Prometheus.Family.name).Nodup := nodup_pageFamilies h
    simp only [pageFamilies, List.map_cons, List.nodup_cons] at hnodup
    exact hnodup.2.2.1 (List.mem_map.mpr ⟨family, hfamily, hname⟩)
  have hfamilies : ((metrics.families scrape).flatMap Prometheus.Family.lines).filter
      (fun l => !isAgeLine l) = (metrics.families scrape).flatMap Prometheus.Family.lines := by
    rw [List.filter_flatMap]
    exact List.flatMap_congr fun family hfamily => hkeep family (hrest family hfamily)
  have hregistered : watchersRegistered ≠ lastActivityAge := by decide +kernel
  have hconnected : watchersConnected ≠ lastActivityAge := by decide +kernel
  simp only [pageFamilies, List.flatMap_cons, List.filter_append, hages, hfamilies,
    hkeep (gaugeFamily watchersRegistered _ _) hregistered,
    hkeep (gaugeFamily watchersConnected _ _) hconnected]

/-- The samples of a counter under a label set: what is stored for it, if something is. -/
theorem samples_counterFamily {entry : Name × Metrics.Family}
    (hrendered : ∀ sample ∈ entry.2.samples.toList, ∃ labels, sample.1 = renderLabels labels)
    (labels : List (Name × String)) :
    (counterFamily entry).samples.filter (fun s => s.1 = labels) =
      match entry.2.samples[renderLabels labels]? with
      | none => []
      | some n => [(labels, .ofNat n)] := by
  have hkey : ∀ sample ∈ entry.2.samples.toList,
      decide (decodeLabels sample.1 = labels) = decide (sample.1 = renderLabels labels) := by
    intro sample hsample
    obtain ⟨labels', hlabels'⟩ := hrendered sample hsample
    simp only [hlabels', decodeLabels_renderLabels, renderLabels_injective.eq_iff]
  have hfilter : (entry.2.samples.toList.map fun sample =>
      (decodeLabels sample.1, Value.ofNat sample.2)).filter (fun s => s.1 = labels) =
        (entry.2.samples.toList.filter fun sample => sample.1 = renderLabels labels).map
          fun sample => (decodeLabels sample.1, Value.ofNat sample.2) := by
    rw [List.filter_map]
    exact congrArg _ (List.filter_congr hkey)
  have hnodup : (entry.2.samples.toList.map Prod.fst).Nodup := by
    rw [Std.ExtTreeMap.map_fst_toList_eq_keys]
    exact Std.ExtTreeMap.nodup_keys
  rw [counterFamily, hfilter]
  split
  case h_1 hnone =>
    have hempty : (entry.2.samples.toList.filter fun sample =>
        sample.1 = renderLabels labels) = [] := by
      refine List.filter_eq_nil_iff.mpr fun sample hsample => ?_
      rw [Std.ExtTreeMap.mem_toList_iff_getElem?_eq_some] at hsample
      simp only [decide_eq_true_eq]
      intro heq
      rw [heq, hnone] at hsample
      cases hsample
    rw [hempty, List.map_nil]
  case h_2 n hsome =>
    have hmem : (renderLabels labels, n) ∈ entry.2.samples.toList :=
      Std.ExtTreeMap.mem_toList_iff_getElem?_eq_some.mpr hsome
    have hsingle := Prometheus.filter_key_eq_singleton hnodup hmem
    rw [hsingle, List.map_singleton, decodeLabels_renderLabels]

/-- What stands on the page under a counter's label set. -/
theorem samplesOf_counter (h : metrics.Counts calls) (event : Metrics.Counted)
    (labels : List (Name × String)) :
    (Prometheus.samplesOf ((pageFamilies entries registered connected metrics scrape).flatMap
        Prometheus.Family.lines) event.increment.name).filter (fun s => s.1 = labels) =
      if Metrics.increments calls event.increment.name labels = 0 then []
      else [(labels, .ofNat (Metrics.increments calls event.increment.name labels))] := by
  have hsample := h.sample event.increment.name labels
  rcases hfamily : metrics.counters[event.increment.name]? with - | family
  -- nothing counted, and no family of the name
  · have hzero : Metrics.increments calls event.increment.name labels = 0 := by
      by_contra hne
      rw [Metrics.sample?, hfamily, if_neg hne] at hsample
      cases hsample
    have hname : event.increment.name ∉
        (pageFamilies entries registered connected metrics scrape).map Prometheus.Family.name := by
      obtain ⟨gauges, hgauges, hnames⟩ :=
        exists_map_name_pageFamilies entries registered connected metrics scrape
      rw [hnames, List.mem_append, not_or]
      refine ⟨fun hmem => not_mem_gaugeNames event (hgauges.subset hmem), fun hmem => ?_⟩
      obtain ⟨family, hfamily'⟩ := Map.mem_iff_exists.mp (Std.ExtTreeMap.mem_keys.mp hmem)
      rw [hfamily] at hfamily'
      cases hfamily'
    rw [(Prometheus.family_of_not_mem hname).1, if_pos hzero, List.filter_nil]
  · have hmem : counterFamily (event.increment.name, family) ∈
        pageFamilies entries registered connected metrics scrape := by
      have hentry := Std.ExtTreeMap.mem_toList_iff_getElem?_eq_some.mpr hfamily
      simp only [pageFamilies, Metrics.families, List.mem_cons, List.mem_append]
      exact .inr (.inr (.inr (.inr (List.mem_map_of_mem hentry))))
    have hsamples : Prometheus.samplesOf ((pageFamilies entries registered connected metrics
        scrape).flatMap Prometheus.Family.lines) event.increment.name =
          (counterFamily (event.increment.name, family)).samples :=
      (Prometheus.family_of_mem (nodup_pageFamilies h) hmem).1
    have hrendered : ∀ sample ∈ family.samples.toList, ∃ labels, sample.1 = renderLabels labels :=
      h.mem_rendered _ (Std.ExtTreeMap.mem_toList_iff_getElem?_eq_some.mpr hfamily)
    rw [Metrics.sample?, hfamily, Option.bind_some] at hsample
    rw [hsamples, samples_counterFamily hrendered, hsample]
    split_ifs <;> rfl

/-- The number of watchers with an open connection. -/
def connectedCount (health : Health) : ℕ := health.toList.countP fun entry => entry.2.connected

/-- What a reader of the page finds, given the registry of the watchers and the history of the
handlers' calls. -/
structure PageDecodes (scrape : Scrape) (health : Health) (calls : List Metrics.Call)
    (metrics : Metrics) (page : List Line) : Prop where
  /-- One sample for each registered watcher, with its key and its age. -/
  watchers : (Prometheus.samplesOf page lastActivityAge).Perm
    (health.toList.map (ageSample scrape))
  /-- Exactly one for each registered key, and none for another. -/
  once : ∀ key, (Prometheus.samplesOf page lastActivityAge).countP
    (fun s => s.1 = [(⟨"watcher", by decide +kernel⟩, key)]) = if key ∈ health then 1 else 0
  registered : Prometheus.samplesOf page watchersRegistered = [([], .ofNat health.size)]
  connected : Prometheus.samplesOf page watchersConnected = [([], .ofNat (connectedCount health))]
  /-- For each label set of a counter its number of increments, once, if there were any. -/
  counters : ∀ (event : Metrics.Counted) (labels : List (Name × String)),
    (Prometheus.samplesOf page event.increment.name).filter (fun s => s.1 = labels) =
      if Metrics.increments calls event.increment.name labels = 0 then []
      else [(labels, .ofNat (Metrics.increments calls event.increment.name labels))]
  /-- A name has one help line and one type line, or stands nowhere on the page. -/
  headers : ∀ name,
    (∃ text kind, Prometheus.helpsOf page name = [text] ∧ Prometheus.kindsOf page name = [kind]) ∨
      (Prometheus.samplesOf page name = [] ∧ Prometheus.helpsOf page name = [] ∧
        Prometheus.kindsOf page name = [])
  /-- The other lines depend on the two counts, and on no key. -/
  others : page.filter (fun l => !isAgeLine l) =
    (pageFamilies [] health.size (connectedCount health) metrics scrape).flatMap
      Prometheus.Family.lines

/-- A key is registered once or not at all. -/
theorem countP_ageSample (scrape : Scrape) (health : Health) (key : String) :
    (health.toList.map (ageSample scrape)).countP
      (fun s => s.1 = [(⟨"watcher", by decide +kernel⟩, key)]) = if key ∈ health then 1 else 0 := by
  have hkey : (fun entry : String × WatcherStatus =>
      decide ((ageSample scrape entry).1 = [(⟨"watcher", by decide +kernel⟩, key)])) =
        fun entry => decide (entry.1 = key) := by
    funext entry
    simp [ageSample]
  have hcount : (health.toList.map (ageSample scrape)).countP
      (fun s => s.1 = [(⟨"watcher", by decide +kernel⟩, key)]) =
        (health.toList.filter fun entry => entry.1 = key).length := by
    rw [List.countP_map, ← List.countP_eq_length_filter]
    exact congrFun (congrArg List.countP hkey) _
  rw [hcount]
  split_ifs with hmem
  · obtain ⟨status, hstatus⟩ := Map.mem_iff_exists.mp hmem
    have hentry := Std.ExtTreeMap.mem_toList_iff_getElem?_eq_some.mpr hstatus
    have hnodup : (health.toList.map Prod.fst).Nodup := by
      rw [Std.ExtTreeMap.map_fst_toList_eq_keys]
      exact Std.ExtTreeMap.nodup_keys
    have hsingle := Prometheus.filter_key_eq_singleton hnodup hentry
    rw [hsingle, List.length_singleton]
  · rw [List.length_eq_zero_iff, List.filter_eq_nil_iff]
    intro entry hentry
    rw [Std.ExtTreeMap.mem_toList_iff_getElem?_eq_some] at hentry
    simp only [decide_eq_true_eq]
    rintro rfl
    exact hmem (Map.mem_of_getElem? hentry)

/-- **Main result.** Whatever keys the watchers have, whatever their states, and whatever the
handlers have counted: the page can be read, and decodes to the registries; and a machine that
counts in 64 bits has the same counters up to `2 ^ 64` calls. -/
theorem metrics_page_decodes {health : Health} (snapshot : Snapshot health) (startTime : ℕ)
    (calls : List Metrics.Call) (scrape : Scrape) :
    ∃ page, Prometheus.readPage
        (renderMetrics snapshot ((Metrics.new startTime).run calls) scrape).toList = some page ∧
      PageDecodes scrape health calls ((Metrics.new startTime).run calls) page ∧
      (calls.length < 2 ^ 64 →
        (Metrics.new startTime).runU64 calls = (Metrics.new startTime).run calls) := by
  have hwidth : calls.length < 2 ^ 64 →
      (Metrics.new startTime).runU64 calls = (Metrics.new startTime).run calls :=
    Metrics.runU64_eq_run startTime
  have hcounts := Metrics.counts_run startTime calls
  generalize (Metrics.new startTime).run calls = metrics at hcounts hwidth ⊢
  have hlength : snapshot.entries.length = health.size :=
    snapshot.perm.length_eq.trans Std.ExtTreeMap.length_toList
  have hopen : (snapshot.entries.countP fun entry => entry.2.connected) = connectedCount health :=
    snapshot.perm.countP_eq _
  have hread := congrArg Prometheus.readPage
    (toList_renderMetrics snapshot hcounts.mem_rendered scrape)
  rw [Prometheus.readPage_print, hlength, hopen] at hread
  have hnodup : ((pageFamilies snapshot.entries health.size (connectedCount health) metrics
      scrape).map Prometheus.Family.name).Nodup := nodup_pageFamilies hcounts
  -- each of the page's own families is on it as it is
  have hfamily : ∀ family ∈ [gaugeFamily watchersRegistered watchersRegisteredHelp health.size,
      gaugeFamily watchersConnected watchersConnectedHelp (connectedCount health),
      ageFamily scrape snapshot.entries],
      Prometheus.samplesOf ((pageFamilies snapshot.entries health.size (connectedCount health)
        metrics scrape).flatMap Prometheus.Family.lines) family.name = family.samples :=
    fun family hmem => (Prometheus.family_of_mem hnodup (List.mem_append_left _ hmem)).1
  have hages := hfamily (ageFamily scrape snapshot.entries) (by simp)
  have hwatchers := snapshot.perm.map (ageSample scrape)
  refine ⟨_, hread, ⟨?_, fun key => ?_, ?_, ?_, samplesOf_counter hcounts, fun name => ?_,
    filter_pageFamilies hcounts⟩, hwidth⟩
  · exact (List.Perm.of_eq hages).trans hwatchers
  · exact (((List.Perm.of_eq hages).trans hwatchers).countP_eq _).trans
      (countP_ageSample scrape health key)
  · exact hfamily (gaugeFamily watchersRegistered watchersRegisteredHelp health.size) (by simp)
  · exact hfamily (gaugeFamily watchersConnected watchersConnectedHelp (connectedCount health))
      (by simp)
  · by_cases hname : name ∈ (pageFamilies snapshot.entries health.size (connectedCount health)
        metrics scrape).map Prometheus.Family.name
    · obtain ⟨family, hmem, rfl⟩ := List.mem_map.mp hname
      exact .inl ⟨_, _, (Prometheus.family_of_mem hnodup hmem).2⟩
    · exact .inr (Prometheus.family_of_not_mem hname)

end

end Jmap2Telegram
