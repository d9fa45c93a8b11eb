import Jmap2Telegram.Release.Notes

/-!
# Finishing a release

A run that failed, at whatever call, has published a part of the release: maybe the git tag, maybe
some of the tags of the image, maybe the chart. The guards refuse what is there and is something
else. When all runs for the version are of one commit, and CI published one image of it, what is
there is what the run would publish itself.

* `steady_state`: so it is in every run of the machine.
* `can_finish`: hence at any time between two runs, each of them can be started again and finishes,
  if no more call fails.
-/

namespace Jmap2Telegram.Release

open Transition

/-- The call comes out: what it looks for is looked up, what it does is done and reported so. -/
def Call.Succeeds : Call → Prop
  | .tag refLooked objectLooked ok => refLooked = true ∧ objectLooked = true ∧ ok = true
  | .imageGuard looked | .chartGuard looked => looked = true
  | .promote pushed ok => (∀ tag, pushed tag = true) ∧ ok = true
  | .chartPush _ ok => ok = true
  | .cut looked ok => looked = true ∧ ok = true
  | .prep | .wait | .readBack | .chartRead => True

/-- How many calls there are from a phase to the end. -/
def Phase.callsLeft : Phase → ℕ
  | .prep => 10
  | .tag => 9
  | .wait => 8
  | .imageGuard => 7
  | .promote _ _ => 6
  | .readBack => 5
  | .chartGuard => 4
  | .chartPush _ => 3
  | .chartRead => 2
  | .cut => 1

namespace Workflow

variable {ι : Type} {w : Workflow ι} {i : ι} {digest : String} {s s' : State ι}

/-- What is published of the version of a run is what the run would publish, and the image CI
published of the commit is there. -/
structure Steady (w : Workflow ι) (i : ι) (digest : String) (p : Published) : Prop where
  tag : ∀ ref, p.gitTags[(w.trigger i).tag]? = some ref → ref.sha = (w.trigger i).sha
  image : ∀ d, p.images[(w.trigger i).tag]? = some d → d = digest
  chart : ∀ chart, p.charts[w.version i]? = some chart →
    chart.content = w.chartContent (w.trigger i).sha (w.version i)
  source : p.images[(w.trigger i).source]? = some digest

/-- All runs for the version of a run are of its commit, which has that version. -/
structure OneCommit (w : Workflow ι) (i : ι) : Prop where
  sha : ∀ j, w.version j = w.version i → (w.trigger j).sha = (w.trigger i).sha
  version : isVersion (w.version i) = true
  crate : crateVersion (w.cargoToml (w.trigger i).sha) = w.version i

/-- CI publishes no second image of the commit of a run, nobody prunes the one it has published, and
nobody gives the tag of the release to another commit. -/
def LeavesAlone (w : Workflow ι) (i : ι) (digest : String) : Event ι → Prop
  | .ci sha d => sha = (w.trigger i).sha → d = digest
  | .prune sha => sha ≠ (w.trigger i).sha
  | .pushTag name ref => name = (w.trigger i).tag → ref.sha = (w.trigger i).sha
  | _ => True

/-- The image tag of CI is not one of a release. -/
theorem source_not_mem_promoteTags {t t' : Trigger} (hversion : isVersion t.version = true) :
    t'.source ∉ t.promoteTags := by
  have hplain : ∀ text : String, (∀ c ∈ text.toList, c ∈ t.version.toList) → t'.source ≠ text := by
    rintro text htext rfl
    have hs := isDigit_or_dot_of_isVersion hversion (htext 's' (by simp [Trigger.source]))
    exact absurd hs (by decide)
  intro h
  simp only [Trigger.promoteTags, List.mem_cons, List.not_mem_nil, or_false] at h
  rcases h with h | h | h | h
  · exact source_ne_tag _ _ h
  · exact hplain _ (fun _ => mem_of_mem_minorOf) h
  · exact hplain _ (fun _ => mem_of_mem_majorOf) h
  · have hhead := congrArg (fun s => s.toList.head?) h
    simp [Trigger.source] at hhead

/-! ### How far a run has come -/

/-- Nothing that a release publishes goes away again. -/
structure Grows (p p' : Published) : Prop where
  gitTags : ∀ name, name ∈ p.gitTags → name ∈ p'.gitTags
  images : ∀ version : String, "v" ++ version ∈ p.images → "v" ++ version ∈ p'.images
  charts : ∀ version, version ∈ p.charts → version ∈ p'.charts

/-- A tag that is there stays. -/
theorem mem_of_retag {images : Map String String} {tags : List String} {d name : String}
    (h : name ∈ images) : name ∈ retag images tags d := by
  obtain ⟨d', hd'⟩ := Map.mem_iff_exists.mp h
  rw [Map.mem_iff_exists, getElem?_retag]
  split_ifs
  · exact ⟨d, rfl⟩
  · exact ⟨d', hd'⟩

/-- What a call publishes is added to what was there. -/
theorem grows_act {j : ι} {o : Outputs} {phase : Phase} {call : Call} {p p' : Published}
    {o' : Outputs} {next : Next}
    (h : ActEffect w.chartContent (w.trigger j) p o phase call p' o' next) : Grows p p' := by
  cases h with
  | tagged =>
    exact ⟨fun _ hname => Std.ExtTreeMap.mem_insert.mpr (.inr hname), fun _ => id, fun _ => id⟩
  | promoted => exact ⟨fun _ => id, fun _ => mem_of_retag, fun _ => id⟩
  | charted =>
    exact ⟨fun _ => id, fun _ => id, fun _ hv => Std.ExtTreeMap.mem_insert.mpr (.inr hv)⟩
  | _ => exact ⟨fun _ => id, fun _ => id, fun _ => id⟩

/-- What is published when a run comes to a job. -/
structure Reached (w : Workflow ι) (i : ι) (p : Published) (job : Job) : Prop where
  tag : job ≠ .prep → (w.trigger i).tag ∈ p.gitTags
  image : job = .helm ∨ job = .githubRelease → (w.trigger i).tag ∈ p.images
  chart : job = .githubRelease → w.version i ∈ p.charts

/-- What is published when it comes to a call. -/
structure Before (w : Workflow ι) (i : ι) (p : Published) (phase : Phase) : Prop extends
    Reached w i p phase.job where
  readBack : phase = .readBack → (w.trigger i).tag ∈ p.images
  chartRead : phase = .chartRead → w.version i ∈ p.charts

/-- More being published does not take a job back. -/
theorem Reached.grows {p p' : Published} {job : Job} (h : Reached w i p job) (hp : Grows p p') :
    Reached w i p' job where
  tag hjob := hp.gitTags _ (h.tag hjob)
  image hjob := hp.images _ (h.image hjob)
  chart hjob := hp.charts _ (h.chart hjob)

theorem Before.grows {p p' : Published} {phase : Phase} (h : Before w i p phase)
    (hp : Grows p p') : Before w i p' phase where
  toReached := h.toReached.grows hp
  readBack hphase := hp.images _ (h.readBack hphase)
  chartRead hphase := hp.charts _ (h.chartRead hphase)

/-- Most calls ask for no more than their job. -/
theorem Reached.before {p : Published} {job : Job} (h : Reached w i p job) (phase : Phase)
    (hjob : phase.job = job) (hread : phase ≠ .readBack := by simp)
    (hchart : phase ≠ .chartRead := by simp) : Before w i p phase where
  toReached := hjob ▸ h
  readBack hphase := absurd hphase hread
  chartRead hphase := absurd hphase hchart

/-- A job that is reached is before its first call. -/
theorem Reached.first {p : Published} {job : Job} (h : Reached w i p job) :
    Before w i p job.first := by
  cases job <;> exact h.before _ rfl (by simp [Job.first]) (by simp [Job.first])

/-- A run is where what is published lets it be; a run of a git tag has that tag. -/
structure Placed (w : Workflow ι) (i : ι) (s : State ι) : Prop where
  pushed : (w.trigger i).dispatch = false → (w.trigger i).tag ∈ s.published.gitTags
  next : ∀ job, s.next i = some job → Reached w i s.published job
  current : ∀ phase, s.current = some (i, phase) → Before w i s.published phase

/-- A call leads to where what is published lets the run be. -/
theorem Before.act {p p' : Published} {o o' : Outputs} {phase phase' : Phase} {call : Call}
    (h : Before w i p phase)
    (hpushed : (w.trigger i).dispatch = false → (w.trigger i).tag ∈ p.gitTags)
    (heffect : ActEffect w.chartContent (w.trigger i) p o phase call p' o' (.go phase')) :
    Before w i p' phase' := by
  generalize hnext : Next.go phase' = next at heffect
  have hp := grows_act heffect
  cases heffect with
  | refused | released => cases hnext
  | checked =>
    cases hnext
    split
    case isTrue => exact (⟨by simp, by simp, by simp⟩ : Reached w i p .prep).before .tag rfl
    case isFalse hpush =>
      have htag := hpushed (Bool.eq_false_iff.mpr hpush)
      exact (⟨fun _ => htag, by simp, by simp⟩ : Reached w i p .promote).before .wait rfl
  | tagThere hthere =>
    cases hnext
    exact (⟨fun _ => hthere, by simp, by simp⟩ : Reached w i p .promote).before .wait rfl
  | @tagged _ _ ok =>
    cases ok <;> cases hnext
    have hthere := Std.ExtTreeMap.mem_insert_self (t := p.gitTags) (k := (w.trigger i).tag)
      (v := .commit (w.trigger i).sha)
    exact (⟨fun _ => hthere, by simp, by simp⟩ : Reached w i _ .promote).before .wait rfl
  | waited =>
    cases hnext
    exact h.toReached.before .imageGuard rfl
  | notFound | sameImage =>
    cases hnext
    exact h.toReached.before (.promote _ _) rfl
  | @promoted _ ok _ pushed digest _ =>
    split at hnext
    case isFalse => cases hnext
    case isTrue hall =>
      cases hnext
      refine ⟨h.toReached.grows hp, fun _ => ?_, fun hphase => by (cases hphase)⟩
      have htag : (w.trigger i).tag ∈ (w.trigger i).promoteTags.filter pushed := by
        rw [List.filter_eq_self.mpr (List.all_eq_true.mp (Bool.and_eq_true_iff.mp hall).1)]
        exact List.mem_cons_self
      rw [Map.mem_iff_exists, getElem?_retag, if_pos htag]
      exact ⟨digest, rfl⟩
  | readBack =>
    cases hnext
    have himage := h.readBack rfl
    have htag := h.tag (by simp [Phase.job])
    exact (⟨fun _ => htag, fun _ => himage, by simp⟩ : Reached w i p .helm).before .chartGuard rfl
  | chartNotFound =>
    cases hnext
    exact h.toReached.before (.chartPush _) rfl
  | sameChart hthere =>
    cases hnext
    exact ⟨h.toReached, fun hphase => by (cases hphase), fun _ => hthere⟩
  | @charted _ ok =>
    cases ok <;> cases hnext
    exact ⟨h.toReached.grows hp, fun hphase => by (cases hphase),
      fun _ => Std.ExtTreeMap.mem_insert_self⟩
  | chartRead =>
    cases hnext
    have htag := h.tag (by simp [Phase.job])
    have himage := h.image (.inl rfl)
    have hchart := h.chartRead rfl
    exact (⟨fun _ => htag, fun _ => himage, fun _ => hchart⟩ :
      Reached w i p .githubRelease).before .cut rfl
  | cut =>
    split at hnext <;> cases hnext

/-! ### The rest of a run -/

/-- The release of a run is out: all its parts are there and are of its commit. -/
structure Completed (w : Workflow ι) (i : ι) (digest : String) (s : State ι) : Prop where
  current : s.current = none
  next : s.next i = none
  tag : ∃ ref, s.published.gitTags[(w.trigger i).tag]? = some ref ∧ ref.sha = (w.trigger i).sha
  image : s.published.images[(w.trigger i).tag]? = some digest
  chart : ∃ chart, s.published.charts[w.version i]? = some chart ∧
    chart.content = w.chartContent (w.trigger i).sha (w.version i)
  release : (w.trigger i).tag ∈ s.published.releases

/-- A call that comes out is not refused. -/
theorem Steady.goes_on (h : Steady w i digest s.published) (hone : OneCommit w i) {phase : Phase}
    (hbefore : Before w i s.published phase) {call : Call} (hcall : call.Succeeds) {p : Published}
    {o o' : Outputs} {next : Next}
    (hact : act w.cargoToml w.chartContent (w.trigger i) s.published o phase call =
      some (p, o', next)) :
    (∃ phase', next = .go phase' ∧ phase'.callsLeft < phase.callsLeft) ∨
      next = .done ∧ phase = .cut ∧ (w.trigger i).tag ∈ p.releases := by
  unfold act at hact
  split at hact
  case h_1 =>
    have hcheck : isVersion (w.trigger i).version = true ∧
        crateVersion (w.cargoToml (w.trigger i).sha) = (w.trigger i).version :=
      ⟨hone.version, hone.crate⟩
    rw [if_pos hcheck] at hact
    cases hact
    refine .inl ⟨_, rfl, ?_⟩
    split <;> decide
  case h_2 refLooked objectLooked ok =>
    obtain ⟨rfl, rfl, rfl⟩ := hcall
    cases href : s.published.gitTags[(w.trigger i).tag]? with
    | some ref =>
      have hsha : existingSha (w.trigger i) s.published true true = some (w.trigger i).sha := by
        rw [existingSha, if_pos rfl, href, Option.bind_some, ← h.tag ref href]
        cases ref <;> rfl
      rw [hsha] at hact
      simp only [if_true] at hact
      cases hact
      exact .inl ⟨_, rfl, by decide⟩
    | none =>
      have hnone : existingSha (w.trigger i) s.published true true = none := by
        rw [existingSha, if_pos rfl, href, Option.bind_none]
      have habsent : (w.trigger i).tag ∉ s.published.gitTags := by
        intro hthere
        obtain ⟨ref, href'⟩ := Map.mem_iff_exists.mp hthere
        cases href.symm.trans href'
      rw [hnone] at hact
      simp only [if_neg habsent, if_true] at hact
      cases hact
      exact .inl ⟨_, rfl, by decide⟩
  case h_3 =>
    rw [if_pos (Map.mem_of_getElem? h.source)] at hact
    cases hact
    exact .inl ⟨_, rfl, by decide⟩
  case h_4 looked =>
    cases hcall
    cases himage : s.published.images[(w.trigger i).tag]? with
    | none =>
      simp only [if_true, himage] at hact
      cases hact
      exact .inl ⟨_, rfl, by simp [Phase.callsLeft]⟩
    | some d =>
      have hd : s.published.images[(w.trigger i).source]? = some d := by
        rw [h.source, h.image d himage]
      simp only [if_true, himage, hd] at hact
      cases hact
      exact .inl ⟨_, rfl, by simp [Phase.callsLeft]⟩
  case h_5 looked built pushed ok =>
    obtain ⟨hpushed, rfl⟩ := hcall
    have hall : ((w.trigger i).promoteTags.all pushed && true) = true := by
      simp [hpushed]
    simp only [h.source, hall, if_true] at hact
    cases hact
    exact .inl ⟨_, rfl, by simp [Phase.callsLeft]⟩
  case h_6 =>
    obtain ⟨d, hd⟩ := Map.mem_iff_exists.mp (hbefore.readBack rfl)
    simp only [hd] at hact
    cases hact
    exact .inl ⟨_, rfl, by decide⟩
  case h_7 looked =>
    cases hcall
    cases hchart : s.published.charts[(w.trigger i).version]? with
    | none =>
      simp only [if_true, hchart] at hact
      cases hact
      exact .inl ⟨_, rfl, by simp [Phase.callsLeft]⟩
    | some chart =>
      have hcontent : chart.content =
          w.chartContent (w.trigger i).sha (w.trigger i).version := h.chart chart hchart
      simp only [if_true, hchart] at hact
      rw [if_pos hcontent] at hact
      cases hact
      exact .inl ⟨_, rfl, by decide⟩
  case h_8 looked d ok =>
    cases hcall
    simp only [if_true] at hact
    cases hact
    exact .inl ⟨_, rfl, by simp [Phase.callsLeft]⟩
  case h_9 =>
    obtain ⟨chart, hchart⟩ := Map.mem_iff_exists.mp (hbefore.chartRead rfl)
    have hchart' : s.published.charts[(w.trigger i).version]? = some chart := hchart
    simp only [hchart'] at hact
    cases hact
    exact .inl ⟨_, rfl, by decide⟩
  case h_10 looked ok =>
    obtain ⟨rfl, rfl⟩ := hcall
    split at hact
    case isTrue hthere =>
      simp only [if_true] at hact
      cases hact
      exact .inr ⟨rfl, rfl, hthere⟩
    case isFalse =>
      rw [if_pos (hbefore.tag (by simp [Phase.job]))] at hact
      simp only [if_true] at hact
      cases hact
      exact .inr ⟨rfl, rfl, Std.ExtTreeMap.mem_insert_self⟩
  case h_11 => cases hact

/-! ### A step -/

variable [DecidableEq ι]

theorem Steady.call (h : Steady w i digest s.published) (hone : OneCommit w i) (hinv : Inv w s)
    {call : Call} (hstep : w.step s (.call call) = some s') :
    Steady w i digest s'.published := by
  obtain ⟨j, phase, p, o, next, hcurrent, heffect, rfl⟩ := step_call hstep
  have hpublished : (settle s j phase (p, o, next)).published = p := by cases next <;> rfl
  rw [hpublished]
  cases heffect with
  | tagged =>
    refine ⟨fun ref href => ?_, h.image, h.chart, h.source⟩
    dsimp only at href
    rw [Map.getElem?_insert] at href
    split_ifs at href with hname
    · cases href
      exact hone.sha j ((String.append_right_inj _).mp hname)
    · exact h.tag ref href
  | @promoted looked ok built pushed source hsource =>
    have hversion := hinv.current j _ hcurrent (by simp)
    refine ⟨h.tag, fun d hd => ?_, h.chart, ?_⟩
    · dsimp only at hd
      rw [getElem?_retag] at hd
      split_ifs at hd with hmem
      · cases hd
        have hsame := eq_of_tag_mem hversion (List.mem_of_mem_filter hmem)
        have hsha : (w.trigger j).source = (w.trigger i).source :=
          congrArg ("sha-" ++ ·) (hone.sha j hsame.symm)
        rw [hsha, h.source] at hsource
        exact (Option.some.inj hsource).symm
      · exact h.image d hd
    · dsimp only
      rw [getElem?_retag, if_neg fun hmem =>
        source_not_mem_promoteTags hversion (List.mem_of_mem_filter hmem)]
      exact h.source
  | charted =>
    refine ⟨h.tag, h.image, fun chart hchart => ?_, h.source⟩
    dsimp only at hchart
    rw [Map.getElem?_insert] at hchart
    split_ifs at hchart with hsame
    · cases hchart
      rw [hone.sha j hsame]
      exact congrArg _ hsame
    · exact h.chart chart hchart
  | _ => exact ⟨h.tag, h.image, h.chart, h.source⟩

/-- Every event that leaves the version alone keeps what was published of the commit. -/
theorem Steady.step (h : Steady w i digest s.published) (hone : OneCommit w i) (hinv : Inv w s)
    {e : Event ι} (he : LeavesAlone w i digest e) (hstep : w.step s e = some s') :
    Steady w i digest s'.published := by
  cases e with
  | start j all =>
    rw [Workflow.step] at hstep
    split at hstep <;> cases hstep
    exact h
  | call call => exact h.call hone hinv hstep
  | crash =>
    obtain ⟨⟨j, phase⟩, -, rfl⟩ := Option.map_eq_some_iff.mp hstep
    exact h
  | ci sha d =>
    cases hstep
    have htag : "sha-" ++ sha ≠ (w.trigger i).tag := source_ne_tag sha _
    refine ⟨h.tag, fun d' hd' => h.image d' ?_, h.chart, ?_⟩
    · rwa [Map.getElem?_insert, if_neg htag] at hd'
    · dsimp only
      rw [Map.getElem?_insert]
      split_ifs with hsource
      · rw [he ((String.append_right_inj _).mp hsource)]
      · exact h.source
  | prune sha =>
    cases hstep
    have htag : "sha-" ++ sha ≠ (w.trigger i).tag := source_ne_tag sha _
    have hsource : "sha-" ++ sha ≠ (w.trigger i).source := fun hsource =>
      he ((String.append_right_inj _).mp hsource)
    refine ⟨h.tag, fun d' hd' => h.image d' ?_, h.chart, ?_⟩
    · rwa [Map.getElem?_erase, if_neg htag] at hd'
    · dsimp only
      rw [Map.getElem?_erase, if_neg hsource]
      exact h.source
  | pushTag name ref =>
    rw [Workflow.step] at hstep
    split at hstep <;> cases hstep
    refine ⟨fun ref' href' => ?_, h.image, h.chart, h.source⟩
    dsimp only at href'
    rw [Map.getElem?_insert] at href'
    split_ifs at href' with hname
    · cases href'
      exact he hname
    · exact h.tag ref' href'

/-- A step adds to what is published. -/
theorem grows_step {e : Event ι} (hstep : w.step s e = some s') :
    Grows s.published s'.published := by
  rcases published_step hstep with heq | ⟨j, phase, call, p, o, next, -, -, heffect, heq⟩ |
    ⟨images, himages, heq⟩ | ⟨name', ref', -, heq⟩
  · rw [heq]
    exact ⟨fun _ => id, fun _ => id, fun _ => id⟩
  · rw [heq]
    exact grows_act heffect
  · rw [heq]
    refine ⟨fun _ => id, fun version hv => ?_, fun _ => id⟩
    rw [Map.mem_iff_exists] at hv ⊢
    rwa [himages]
  · rw [heq]
    exact ⟨fun _ hname => Std.ExtTreeMap.mem_insert.mpr (.inr hname), fun _ => id, fun _ => id⟩

/-- The current run stays where it was, or moves on. -/
theorem Placed.step (h : Placed w i s) {e : Event ι} (hstep : w.step s e = some s') :
    Placed w i s' := by
  have hgrows := grows_step hstep
  have hpushed : (w.trigger i).dispatch = false → (w.trigger i).tag ∈ s'.published.gitTags :=
    fun hpush => hgrows.gitTags _ (h.pushed hpush)
  cases e with
  | start j all =>
    rw [Workflow.step] at hstep
    split at hstep
    case h_2 => cases hstep
    case h_1 job _ hjob =>
      cases hstep
      have hreached : j = i → Reached w i s.published job := by
        rintro rfl
        cases all with
        | true =>
          cases hjob
          constructor <;> simp
        | false => exact h.next job hjob
      refine ⟨h.pushed, fun job' hjob' => ?_, fun phase hcurrent => ?_⟩
      · dsimp only at hjob'
        by_cases hij : i = j
        · subst hij
          rw [Function.update_self] at hjob'
          cases hjob'
          exact hreached rfl
        · rw [Function.update_of_ne hij] at hjob'
          exact h.next job' hjob'
      · cases hcurrent
        exact (hreached rfl).first
  | call call =>
    obtain ⟨j, phase, p, o, next, hcurrent, heffect, rfl⟩ := step_call hstep
    have hpublished : (settle s j phase (p, o, next)).published = p := by cases next <;> rfl
    rw [hpublished] at hgrows
    have hnext : ∀ (next' : Option Job) (job : Job), (∀ job', next' = some job' → j = i →
        Reached w i s.published job') → Function.update s.next j next' i = some job →
        Reached w i p job := by
      intro next' job hreached hjob
      by_cases hij : i = j
      · subst hij
        rw [Function.update_self] at hjob
        exact (hreached job hjob rfl).grows hgrows
      · rw [Function.update_of_ne hij] at hjob
        exact (h.next job hjob).grows hgrows
    cases next with
    | go phase' =>
      refine ⟨hpushed, fun job hjob => (h.next job hjob).grows hgrows, fun phase'' hphase => ?_⟩
      cases hphase
      exact (h.current phase hcurrent).act h.pushed heffect
    | fail =>
      refine ⟨hpushed, fun job hjob => hnext _ job ?_ hjob, fun phase' hnone => by (cases hnone)⟩
      intro job' hjob' hji
      cases hjob'
      cases hji
      exact (h.current phase hcurrent).toReached
    | done =>
      exact ⟨hpushed, fun job hjob => hnext none job (fun _ hnone => by (cases hnone)) hjob,
        fun phase' hnone => by (cases hnone)⟩
  | crash =>
    obtain ⟨⟨j, phase⟩, hcurrent, rfl⟩ := Option.map_eq_some_iff.mp hstep
    refine ⟨h.pushed, fun job' hjob' => ?_, fun phase hnone => by (cases hnone)⟩
    dsimp only at hjob'
    by_cases hij : i = j
    · subst hij
      rw [Function.update_self] at hjob'
      cases hjob'
      exact (h.current phase hcurrent).toReached
    · rw [Function.update_of_ne hij] at hjob'
      exact h.next job' hjob'
  | ci sha d | prune sha =>
    cases hstep
    exact ⟨hpushed, fun job hjob => (h.next job hjob).grows hgrows,
      fun phase hcurrent => (h.current phase hcurrent).grows hgrows⟩
  | pushTag name ref =>
    rw [Workflow.step] at hstep
    split at hstep <;> cases hstep
    exact ⟨hpushed, fun job hjob => (h.next job hjob).grows hgrows,
      fun phase hcurrent => (h.current phase hcurrent).grows hgrows⟩

/-! ### Finishing -/

/-- At every phase there is such a call. -/
theorem exists_call (w : Workflow ι) {phase : Phase} (hcurrent : s.current = some (i, phase)) :
    ∃ call : Call, call.Succeeds ∧ (w.step s (.call call)).isSome := by
  have hstep : ∀ call : Call,
      (act w.cargoToml w.chartContent (w.trigger i) s.published (s.outputs i) phase call).isSome →
        (w.step s (.call call)).isSome := by
    intro call hact
    rw [Workflow.step, hcurrent, Option.bind_some, Option.isSome_map]
    exact hact
  cases phase with
  | prep => exact ⟨.prep, trivial, hstep _ rfl⟩
  | tag =>
    refine ⟨.tag true true true, ⟨rfl, rfl, rfl⟩, hstep _ ?_⟩
    simp only [act]
    split
    · rfl
    · split <;> rfl
  | wait => exact ⟨.wait, trivial, hstep _ rfl⟩
  | imageGuard =>
    refine ⟨.imageGuard true, rfl, hstep _ ?_⟩
    simp only [act]
    split <;> rfl
  | promote looked built =>
    refine ⟨.promote (fun _ => true) true, ⟨fun _ => rfl, rfl⟩, hstep _ ?_⟩
    simp only [act]
    split <;> rfl
  | readBack =>
    refine ⟨.readBack, trivial, hstep _ ?_⟩
    simp only [act]
    split <;> rfl
  | chartGuard =>
    refine ⟨.chartGuard true, rfl, hstep _ ?_⟩
    simp only [act]
    split <;> rfl
  | chartPush looked => exact ⟨.chartPush "" true, rfl, hstep _ rfl⟩
  | chartRead =>
    refine ⟨.chartRead, trivial, hstep _ ?_⟩
    simp only [act]
    split <;> rfl
  | cut =>
    refine ⟨.cut true true, ⟨rfl, rfl⟩, hstep _ ?_⟩
    simp only [act]
    split
    · rfl
    · split <;> rfl

/-- What is published is the run's own, and it is where that lets it be. -/
structure Clean (w : Workflow ι) (i : ι) (digest : String) (s : State ι) : Prop where
  inv : Inv w s
  steady : Steady w i digest s.published
  placed : Placed w i s

/-- `Clean` is kept by every event that leaves the version alone. -/
theorem Clean.step (h : Clean w i digest s) (hone : OneCommit w i) {e : Event ι}
    (he : LeavesAlone w i digest e) (hstep : w.step s e = some s') : Clean w i digest s' where
  inv := h.inv.step hstep
  steady := h.steady.step hone h.inv he hstep
  placed := h.placed.step hstep

/-- So it holds after every such run. -/
theorem steady_state (hone : OneCommit w i) {p : Published} (hp : Steady w i digest p)
    (hpushed : (w.trigger i).dispatch = false → (w.trigger i).tag ∈ p.gitTags)
    (x : Execution w.step (initial p)) (hx : ∀ e ∈ x.events, LeavesAlone w i digest e) :
    Clean w i digest x.final := by
  have hinitial : Clean w i digest (initial p) := by
    refine ⟨inv_initial p, hp, hpushed, fun job hjob => ?_, fun phase hnone => by (cases hnone)⟩
    cases hjob
    exact ⟨by simp, by simp, by simp⟩
  rw [← x.state_length]
  exact x.induction (fun _ s => Clean w i digest s) hinitial
    (fun k hk h hstep => h.step hone (hx _ (List.getElem_mem hk)) hstep) le_rfl

/-- A call that succeeds brings the run nearer to its end. -/
theorem Clean.call (h : Clean w i digest s) (hone : OneCommit w i) {phase : Phase}
    (hcurrent : s.current = some (i, phase)) {call : Call} (hcall : call.Succeeds)
    (hstep : w.step s (.call call) = some s') :
    (∃ phase', s'.current = some (i, phase') ∧ phase'.callsLeft < phase.callsLeft) ∨
      Completed w i digest s' := by
  have hclean := h.step hone (e := .call call) trivial hstep
  have hgrows := grows_step hstep
  obtain ⟨⟨j, phase'⟩, hcurrent', hmap⟩ := Option.bind_eq_some_iff.mp hstep
  cases hcurrent.symm.trans hcurrent'
  obtain ⟨⟨p, o, next⟩, hact, rfl⟩ := Option.map_eq_some_iff.mp hmap
  rcases h.steady.goes_on hone (h.placed.current phase hcurrent) hcall hact with
    ⟨phase', rfl, hlt⟩ | ⟨rfl, rfl, hrelease⟩
  · exact .inl ⟨phase', rfl, hlt⟩
  · right
    have hreached : Reached w i p .githubRelease :=
      (h.placed.current .cut hcurrent).toReached.grows hgrows
    obtain ⟨ref, href⟩ := Map.mem_iff_exists.mp (hreached.tag (by simp))
    obtain ⟨d, hd⟩ := Map.mem_iff_exists.mp (hreached.image (.inr rfl))
    obtain ⟨chart, hchart⟩ := Map.mem_iff_exists.mp (hreached.chart rfl)
    have hnext : (settle s i .cut (p, o, .done)).next i = none := by
      simp only [settle, Function.update_self]
    exact {
      current := rfl
      next := hnext
      tag := ⟨ref, href, hclean.steady.tag ref href⟩
      image := hclean.steady.image d hd ▸ hd
      chart := ⟨chart, hchart, hclean.steady.chart chart hchart⟩
      release := hrelease }

/-- A run whose calls come out goes on to the end. -/
theorem Clean.finish (h : Clean w i digest s) (hone : OneCommit w i) {phase : Phase}
    (hcurrent : s.current = some (i, phase)) {calls : List Call}
    (hcalls : ∀ call ∈ calls, call.Succeeds) (hrun : run w.step s (calls.map .call) = some s') :
    calls.length ≤ phase.callsLeft ∧
      (Completed w i digest s' ∨
        ∃ call : Call, call.Succeeds ∧ (w.step s' (.call call)).isSome) := by
  induction calls generalizing s phase with
  | nil =>
    cases hrun
    exact ⟨Nat.zero_le _, .inr (exists_call w hcurrent)⟩
  | cons call calls ih =>
    rw [List.forall_mem_cons] at hcalls
    obtain ⟨m, hm, hrest⟩ := Option.bind_eq_some_iff.mp hrun
    have hclean := h.step hone (e := .call call) trivial hm
    rcases h.call hone hcurrent hcalls.1 hm with ⟨phase', hcurrent', hlt⟩ | hcompleted
    · obtain ⟨hle, hend⟩ := ih hclean hcurrent' hcalls.2 hrest
      exact ⟨hle.trans_lt hlt, hend⟩
    · cases calls with
      | nil =>
        cases hrest
        refine ⟨?_, .inl hcompleted⟩
        cases phase <;> simp [Phase.callsLeft]
      | cons call' calls =>
        rw [List.map_cons, run_cons, Workflow.step, hcompleted.current] at hrest
        cases hrest

/-- **A release can be finished** at any time between two runs: any run of the version can be
started again, all of it or from the job that failed, and from there the calls that come out are at
most ten and end with all parts of the release published, each of the run's commit. -/
theorem can_finish (hone : OneCommit w i) {p : Published} (hp : Steady w i digest p)
    (hpushed : (w.trigger i).dispatch = false → (w.trigger i).tag ∈ p.gitTags)
    (x : Execution w.step (initial p)) (hx : ∀ e ∈ x.events, LeavesAlone w i digest e)
    (hidle : x.final.current = none) {all : Bool} (hall : all = true ∨ x.final.next i ≠ none) :
    (w.step x.final (.start i all)).isSome ∧
      ∀ (calls : List Call) (s : State ι), (∀ call ∈ calls, call.Succeeds) →
        run w.step x.final (.start i all :: calls.map .call) = some s →
        calls.length ≤ 10 ∧
          (Completed w i digest s ∨
            ∃ call : Call, call.Succeeds ∧ (w.step s (.call call)).isSome) := by
  have hclean := steady_state hone hp hpushed x hx
  obtain ⟨job, hjob⟩ : ∃ job, (if all then some Job.prep else x.final.next i) = some job := by
    cases all with
    | true => exact ⟨.prep, rfl⟩
    | false => exact Option.ne_none_iff_exists'.mp (hall.resolve_left Bool.false_ne_true)
  obtain ⟨m, hm, hcurrent⟩ : ∃ m, w.step x.final (.start i all) = some m ∧
      m.current = some (i, job.first) := by
    rw [Workflow.step, hidle, hjob]
    exact ⟨_, rfl, rfl⟩
  refine ⟨by rw [hm]; rfl, fun calls s hcalls hrun => ?_⟩
  rw [run_cons, hm, Option.bind_some] at hrun
  obtain ⟨hle, hend⟩ := (hclean.step hone (e := .start i all) trivial hm).finish hone hcurrent
    hcalls hrun
  refine ⟨hle.trans ?_, hend⟩
  cases job <;> decide

end Workflow

/-! ### A broken release -/

/-- The promotion fails with one of the tags pushed. -/
def brokenRelease : Execution sampleWorkflow.step
    (Workflow.initial ⟨∅, (∅ : Map String String).insert "sha-5e" "sha256:1a", ∅, ∅⟩) where
  events := [.start () true, .call .prep, .call (.tag true true true), .call .wait,
    .call (.imageGuard true), .call (.promote (fun tag => tag == "v1.2.3") false)]
  enabled := by decide +kernel

/-- The main result at that run, started again from the job that failed. -/
theorem can_finish_brokenRelease : brokenRelease.final.next () = some .promote ∧
    (Workflow.step sampleWorkflow brokenRelease.final (.start () false)).isSome ∧
      ∀ (calls : List Call) (s : State Unit), (∀ call ∈ calls, call.Succeeds) →
        run sampleWorkflow.step brokenRelease.final (.start () false :: calls.map .call) = some s →
        calls.length ≤ 10 ∧
          (Workflow.Completed sampleWorkflow () "sha256:1a" s ∨
            ∃ call : Call, call.Succeeds ∧ (sampleWorkflow.step s (.call call)).isSome) := by
  have hone : Workflow.OneCommit sampleWorkflow () :=
    ⟨fun _ _ => rfl, by decide +kernel, by decide +kernel⟩
  have hp : Workflow.Steady sampleWorkflow () "sha256:1a"
      ⟨∅, (∅ : Map String String).insert "sha-5e" "sha256:1a", ∅, ∅⟩ := by
    refine ⟨fun ref href => ?_, fun d hd => ?_, fun chart hchart => ?_, by decide +kernel⟩
    · rw [Std.ExtTreeMap.getElem?_empty] at href
      cases href
    · have hnone : ((∅ : Map String String).insert "sha-5e" "sha256:1a")["v1.2.3"]? = none := by
        decide +kernel
      cases hnone.symm.trans hd
    · rw [Std.ExtTreeMap.getElem?_empty] at hchart
      cases hchart
  have hnext : brokenRelease.final.next () = some .promote := by rfl
  refine ⟨hnext, Workflow.can_finish hone hp (fun hpush => by (cases hpush)) brokenRelease
    (fun e he => ?_) rfl (.inr fun hnone => by (cases hnext.symm.trans hnone))⟩
  simp only [brokenRelease, List.mem_cons, List.not_mem_nil, or_false] at he
  rcases he with rfl | rfl | rfl | rfl | rfl | rfl <;> trivial

end Jmap2Telegram.Release
