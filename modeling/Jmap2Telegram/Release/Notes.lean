import Jmap2Telegram.Release.Immutable

/-!
# What the release notes say

The notes of a GitHub release name an image and a chart by their digests. The digests are read back
from the registry in earlier jobs, maybe of an earlier start of the run, and the notes are never
written again.

* `notes_true`: as long as no promotion and no push is blind, the notes of every release name what
  is published under its version.
-/

namespace Jmap2Telegram.Release

open Transition

/-- Every release is of a version, and its notes name the image and the chart of it. -/
def NotesTrue (p : Published) : Prop :=
  ∀ (name : String) (notes : Notes), p.releases[name]? = some notes →
    ∃ version content, name = "v" ++ version ∧ p.images[name]? = some notes.image ∧
      p.charts[version]? = some ⟨notes.chart, content⟩

/-- The images of versions and the charts stay. -/
structure Keeps (p p' : Published) : Prop where
  image : ∀ version digest : String, p.images["v" ++ version]? = some digest →
    p'.images["v" ++ version]? = some digest
  chart : ∀ (version : String) (chart : Chart), p.charts[version]? = some chart →
    p'.charts[version]? = some chart

/-- True notes stay true while what they name stays. -/
theorem NotesTrue.keeps {p p' : Published} (h : NotesTrue p) (hkeeps : Keeps p p')
    (hreleases : p'.releases = p.releases) : NotesTrue p' := by
  intro name notes hnotes
  rw [hreleases] at hnotes
  obtain ⟨version, content, rfl, himage, hchart⟩ := h name notes hnotes
  exact ⟨version, content, rfl, hkeeps.image version _ himage, hkeeps.chart version _ hchart⟩

namespace Outputs

/-- The outputs name what is published. -/
structure OfPublished (o : Outputs) (p : Published) (version : String) : Prop where
  image : ∀ digest, o.imageDigest = some digest → p.images["v" ++ version]? = some digest
  chart : ∀ digest, o.chartDigest = some digest →
    ∃ content, p.charts[version]? = some ⟨digest, content⟩

/-- The outputs a job reads are there. -/
structure Cover (o : Outputs) (job : Job) : Prop where
  image : job = .helm ∨ job = .githubRelease → ∃ digest, o.imageDigest = some digest
  chart : job = .githubRelease → ∃ digest, o.chartDigest = some digest

theorem OfPublished.keeps {o : Outputs} {p p' : Published} {version : String}
    (h : o.OfPublished p version) (hkeeps : Keeps p p') : o.OfPublished p' version where
  image digest hdigest := hkeeps.image version digest (h.image digest hdigest)
  chart digest hdigest := (h.chart digest hdigest).imp fun _ => hkeeps.chart version _

theorem cover_early {o : Outputs} {job : Job} (h : job = .prep ∨ job = .promote) : o.Cover job := by
  rcases h with rfl | rfl <;> constructor <;> simp

end Outputs

namespace Workflow

variable {ι : Type} {w : Workflow ι} {s s' : State ι}

/-- A blind promotion, or a blind push. -/
def Blind (w : Workflow ι) (s : State ι) (e : Event ι) : Prop :=
  ∃ version, BlindPromotion w version s e ∨ BlindPush w version s e

/-- The event is a call that gives its tags to an image, or pushes a chart. -/
def writes : Event ι → Bool
  | .call (.promote _ _) | .call (.chartPush _ _) => true
  | _ => false

theorem Blind.writes {e : Event ι} (h : Blind w s e) : writes e = true := by
  obtain ⟨version, ⟨_, _, _, _, _, _, rfl, _⟩ | ⟨_, _, _, _, rfl, _⟩⟩ := h <;> rfl

/-- The outputs are of what is published, the jobs have those they read, and the notes are true. -/
structure Recorded (w : Workflow ι) (s : State ι) : Prop where
  outputs : ∀ i, (s.outputs i).OfPublished s.published (w.version i)
  next : ∀ i job, s.next i = some job → (s.outputs i).Cover job
  current : ∀ i phase, s.current = some (i, phase) → (s.outputs i).Cover phase.job
  notes : NotesTrue s.published

/-- At the start there is nothing to have recorded. -/
theorem recorded_initial {p : Published} (hnotes : NotesTrue p) : Recorded w (initial p) where
  outputs i := ⟨fun _ h => by (cases h), fun _ h => by (cases h)⟩
  next i job h := by
    cases h
    exact Outputs.cover_early (.inl rfl)
  current i phase h := by cases h
  notes := hnotes

variable [DecidableEq ι]

/-- Without a blind step what is published stays. -/
theorem keeps_step (hinv : Inv w s) {e : Event ι} (hsighted : ¬Blind w s e)
    (hstep : w.step s e = some s') : Keeps s.published s'.published where
  image version _ h := (image_step hinv hstep h).resolve_right fun hblind =>
    hsighted ⟨version, .inl hblind⟩
  chart version _ h := (chart_step hinv hstep h).resolve_right fun hblind =>
    hsighted ⟨version, .inr hblind⟩

/-- The outputs of one run change. -/
theorem Recorded.ofPublished_update (h : Recorded w s) {i : ι} {p : Published} {o : Outputs}
    (hkeeps : Keeps s.published p) (ho : o.OfPublished p (w.version i)) (j : ι) :
    (Function.update s.outputs i o j).OfPublished p (w.version j) := by
  by_cases hji : j = i
  · subst hji
    rwa [Function.update_self]
  · rw [Function.update_of_ne hji]
    exact (h.outputs j).keeps hkeeps

/-- The job of one run changes with them. -/
theorem Recorded.cover_update (h : Recorded w s) (i : ι) (o : Outputs) (job : Option Job)
    (hjob : ∀ job', job = some job' → o.Cover job') (j : ι) (job' : Job)
    (hj : Function.update s.next i job j = some job') :
    (Function.update s.outputs i o j).Cover job' := by
  by_cases hji : j = i
  · subst hji
    rw [Function.update_self] at hj
    rw [Function.update_self]
    exact hjob job' hj
  · rw [Function.update_of_ne hji] at hj
    rw [Function.update_of_ne hji]
    exact h.next j job' hj

/-- What a call has to leave. -/
theorem Recorded.settle (h : Recorded w s) {i : ι} {phase : Phase} {p : Published} {o : Outputs}
    {next : Next} (hkeeps : Keeps s.published p) (ho : o.OfPublished p (w.version i))
    (hmore : ∀ job, (s.outputs i).Cover job → o.Cover job) (hphase : o.Cover phase.job)
    (hgo : ∀ phase', next = .go phase' → o.Cover phase'.job) (hnotes : NotesTrue p) :
    Recorded w (settle s i phase (p, o, next)) := by
  have hnext := h.cover_update i o (s.next i) fun job hjob => hmore job (h.next i job hjob)
  rw [Function.update_eq_self] at hnext
  cases next with
  | go phase' =>
    refine ⟨h.ofPublished_update hkeeps ho, hnext, fun j phase'' hcurrent => ?_, hnotes⟩
    cases hcurrent
    simp only [Workflow.settle, Function.update_self]
    exact hgo phase' rfl
  | fail =>
    refine ⟨h.ofPublished_update hkeeps ho, h.cover_update i o _ fun job hjob => ?_,
      fun j phase'' hcurrent => by (cases hcurrent), hnotes⟩
    cases hjob
    exact hphase
  | done =>
    exact ⟨h.ofPublished_update hkeeps ho, h.cover_update i o none fun job hjob => by (cases hjob),
      fun j phase'' hcurrent => by (cases hcurrent), hnotes⟩

theorem Recorded.call (h : Recorded w s) {call : Call}
    (hkeeps : Keeps s.published s'.published) (hstep : w.step s (.call call) = some s') :
    Recorded w s' := by
  obtain ⟨i, phase, p, o, next, hcurrent, heffect, rfl⟩ := step_call hstep
  have hcover := h.current i phase hcurrent
  have hkeeps' : Keeps s.published p := by cases next <;> exact hkeeps
  have ho := (h.outputs i).keeps hkeeps'
  have hsame : p.releases = s.published.releases → o = s.outputs i →
      (∀ phase', next = .go phase' → (s.outputs i).Cover phase'.job) →
      Recorded w (Workflow.settle s i phase (p, o, next)) := by
    rintro hreleases rfl hgo
    exact h.settle hkeeps' ho (fun _ => id) hcover hgo (h.notes.keeps hkeeps' hreleases)
  cases heffect with
  | refused | released => exact hsame rfl rfl fun _ hgo => by cases hgo
  | checked =>
    refine hsame rfl rfl fun phase' hgo => ?_
    cases hgo
    split
    · exact Outputs.cover_early (.inl rfl)
    · exact Outputs.cover_early (.inr rfl)
  | tagThere | waited | notFound | sameImage =>
    refine hsame rfl rfl fun phase' hgo => ?_
    cases hgo
    exact Outputs.cover_early (.inr rfl)
  | @tagged _ _ ok =>
    refine hsame rfl rfl fun phase' hgo => ?_
    cases ok <;> cases hgo
    exact Outputs.cover_early (.inr rfl)
  | promoted =>
    refine hsame rfl rfl fun phase' hgo => ?_
    split at hgo <;> cases hgo
    exact Outputs.cover_early (.inr rfl)
  | @readBack digest htag =>
    refine h.settle hkeeps' ⟨fun d hd => ?_, ho.chart⟩
      (fun job hjob => ⟨fun _ => ⟨digest, rfl⟩, hjob.chart⟩)
      (Outputs.cover_early (.inr rfl)) (fun phase' hgo => ?_) h.notes
    · cases hd
      exact htag
    · cases hgo
      exact ⟨fun _ => ⟨digest, rfl⟩, fun hjob => by cases hjob⟩
  | chartNotFound | sameChart =>
    refine hsame rfl rfl fun phase' hgo => ?_
    cases hgo
    exact hcover
  | @charted _ ok =>
    refine hsame rfl rfl fun phase' hgo => ?_
    cases ok <;> cases hgo
    exact hcover
  | @chartRead chart hchart =>
    have himage := hcover.image (.inl rfl)
    refine h.settle hkeeps' ⟨ho.image, fun d hd => ?_⟩
      (fun job hjob => ⟨hjob.image, fun _ => ⟨chart.digest, rfl⟩⟩)
      ⟨fun _ => himage, fun _ => ⟨chart.digest, rfl⟩⟩ (fun phase' hgo => ?_) h.notes
    · cases hd
      exact ⟨chart.content, hchart⟩
    · cases hgo
      exact ⟨fun _ => himage, fun _ => ⟨chart.digest, rfl⟩⟩
  | @cut _ ok habsent =>
    obtain ⟨image, himage⟩ := hcover.image (.inr rfl)
    obtain ⟨chart, hchart⟩ := hcover.chart rfl
    obtain ⟨content, hcontent⟩ := ho.chart chart hchart
    refine h.settle hkeeps' ho (fun _ => id) hcover (fun phase' hgo => ?_)
      fun name notes hnotes => ?_
    · cases ok <;> cases hgo
    · dsimp only at hnotes
      rw [Map.getElem?_insert] at hnotes
      split_ifs at hnotes with hname
      · cases hnotes
        rw [himage, hchart, ← hname]
        exact ⟨w.version i, content, rfl, ho.image image himage, hcontent⟩
      · exact h.notes name notes hnotes

/-- Every event that is not blind keeps the record true. -/
theorem Recorded.step (h : Recorded w s) (hinv : Inv w s) {e : Event ι} (hsighted : ¬Blind w s e)
    (hstep : w.step s e = some s') : Recorded w s' := by
  have hkeeps := keeps_step hinv hsighted hstep
  cases e with
  | start i all =>
    rw [Workflow.step] at hstep
    split at hstep
    case h_2 => cases hstep
    case h_1 job _ hjob =>
      cases hstep
      have hfirst : job.first.job = job := by cases job <;> rfl
      cases all with
      | true =>
        cases hjob
        have hcover : (Outputs.mk none none).Cover .prep := Outputs.cover_early (.inl rfl)
        refine ⟨h.ofPublished_update hkeeps ⟨fun _ hd => by (cases hd), fun _ hd => by (cases hd)⟩,
          h.cover_update i ⟨none, none⟩ _ fun job' hjob' => ?_, fun j phase hcurrent => ?_, h.notes⟩
        · cases hjob'
          exact hcover
        · cases hcurrent
          dsimp only
          rw [if_pos rfl, Function.update_self]
          exact hcover
      | false =>
        rw [if_neg Bool.false_ne_true] at hjob
        have hcover := h.next i job hjob
        have hnext := h.cover_update i (s.outputs i) (some job) fun job' hjob' => by
          cases hjob'
          exact hcover
        rw [Function.update_eq_self] at hnext
        refine ⟨h.outputs, hnext, fun j phase hcurrent => ?_, h.notes⟩
        cases hcurrent
        rw [hfirst]
        exact hcover
  | call call => exact h.call hkeeps hstep
  | crash =>
    obtain ⟨⟨i, phase⟩, hcurrent, rfl⟩ := Option.map_eq_some_iff.mp hstep
    have hnext := h.cover_update i (s.outputs i) (some phase.job) fun job hjob => by
      cases hjob
      exact h.current i phase hcurrent
    rw [Function.update_eq_self] at hnext
    exact ⟨h.outputs, hnext, fun _ _ hnone => by (cases hnone), h.notes⟩
  | ci sha digest | prune sha =>
    cases hstep
    exact ⟨fun i => (h.outputs i).keeps hkeeps, h.next, h.current, h.notes.keeps hkeeps rfl⟩
  | pushTag name ref =>
    rw [Workflow.step] at hstep
    split at hstep <;> cases hstep
    exact ⟨fun i => (h.outputs i).keeps hkeeps, h.next, h.current, h.notes.keeps hkeeps rfl⟩

/-- **The notes are true** in every run of the machine without a blind step, after whatever calls
failed and however often the runs were started again. -/
theorem notes_true {p : Published} (hnotes : NotesTrue p) (x : Execution (step w) (initial p))
    (hsighted : ∀ k (hk : k < x.events.length), ¬Blind w (x.state k) x.events[k]) {k : ℕ}
    (hk : k ≤ x.events.length) : NotesTrue (x.state k).published := by
  have hrecorded := x.induction (fun _ s => Recorded w s) (recorded_initial hnotes)
    (fun k hk h hstep => h.step (inv_state x k) (hsighted k hk) hstep) hk
  exact hrecorded.notes

end Workflow

/-! ### A release -/

/-- One run, of the form, for the only version of the repository. -/
def sampleWorkflow : Workflow Unit where
  trigger _ := ⟨true, "1.2.3", "5e"⟩
  cargoToml _ := "[package]\nversion = \"1.2.3\"\n"
  chartContent sha version := sha ++ version

/-- The push of the chart fails, and the run is started again from that job. -/
def sampleRelease : Execution sampleWorkflow.step (Workflow.initial ⟨∅, ∅, ∅, ∅⟩) where
  events := [.ci "5e" "sha256:1a", .start () true, .call .prep, .call (.tag true true true),
    .call .wait, .call (.imageGuard true), .call (.promote (fun _ => true) true), .call .readBack,
    .call (.chartGuard true), .crash, .start () false, .call (.chartGuard true),
    .call (.chartPush "sha256:2b" true), .call .chartRead, .call (.cut true true)]
  enabled := by decide +kernel

/-- The main result at that run. -/
theorem notes_true_sampleRelease : sampleRelease.final.published.releases["v1.2.3"]? =
      some ⟨"sha256:1a", "sha256:2b", "5e"⟩ ∧
    NotesTrue (sampleRelease.state 15).published := by
  have hnotes : NotesTrue ⟨∅, ∅, ∅, ∅⟩ := fun name notes h => by
    rw [Std.ExtTreeMap.getElem?_empty] at h
    cases h
  refine ⟨by decide +kernel,
    Workflow.notes_true hnotes sampleRelease (fun k hk hblind => ?_) le_rfl⟩
  have hwrites : ∀ k (hk : k < 15), Workflow.writes sampleRelease.events[k] = true →
      k = 6 ∨ k = 12 := by decide
  rcases hwrites k hk hblind.writes with rfl | rfl
  · have hstate : (sampleRelease.state 6).current = some ((), .promote true none) := by rfl
    obtain ⟨version, ⟨i, looked, built, pushed, ok, hcurrent, -, -, hor⟩ |
      ⟨i, digest, ok, hcurrent, -⟩⟩ := hblind
    · rw [hstate] at hcurrent
      cases hcurrent
      rcases hor with hor | ⟨digest, hor, -⟩ <;> cases hor
    · rw [hstate] at hcurrent
      cases hcurrent
  · have hstate : (sampleRelease.state 12).current = some ((), .chartPush true) := by rfl
    obtain ⟨version, ⟨i, looked, built, pushed, ok, hcurrent, -⟩ | ⟨i, digest, ok, hcurrent, -⟩⟩ :=
      hblind
    · rw [hstate] at hcurrent
      cases hcurrent
    · rw [hstate] at hcurrent
      cases hcurrent

end Jmap2Telegram.Release
