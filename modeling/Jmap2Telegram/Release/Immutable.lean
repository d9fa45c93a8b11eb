import Jmap2Telegram.Release.Workflow

/-!
# What a release never changes

A version that was published is not published again as something else: the git tag and the GitHub
release because their creation is refused, the image and the chart because the workflow looks before
it writes. The looks can be blind: a lookup that fails reads as one that finds nothing, and the
image CI built can be replaced between the look and the promotion.

* `stays_or_blind`: those are the only ways for a published image or chart to change.
-/

namespace Jmap2Telegram.Release

open Shell Transition

/-! ### The tags of a release -/

/-- A version is made of digits and dots. -/
theorem isDigit_or_dot_of_isVersion {version : String} (h : isVersion version = true) {c : Char}
    (hc : c ∈ version.toList) : c.isDigit = true ∨ c = '.' := by
  rw [isVersion] at h
  split at h
  case h_2 => cases h
  case h_1 major minor patch hparts =>
    have hversion : version.toList = ['.'].intercalate [major, minor, patch] := by
      rw [← hparts, List.intercalate_splitOn]
    have hdigits : ∀ part ∈ [major, minor, patch], ∀ d ∈ part, d.isDigit = true := by
      intro part hpart d hd
      have hall := List.all_eq_true.mp h part hpart
      exact List.all_eq_true.mp (Bool.and_eq_true_iff.mp hall).2 d hd
    simp only [hversion, List.intercalate_cons_cons, List.intercalate_singleton, List.mem_append,
      List.mem_singleton] at hc
    rcases hc with (hc | hc) | (hc | hc) | hc
    · exact .inl (hdigits major (by simp) c hc)
    · exact .inr hc
    · exact .inl (hdigits minor (by simp) c hc)
    · exact .inr hc
    · exact .inl (hdigits patch (by simp) c hc)

theorem mem_of_mem_minorOf {version : String} {c : Char} (hc : c ∈ (minorOf version).toList) :
    c ∈ version.toList := by
  rw [minorOf] at hc
  split at hc
  case isFalse => exact hc
  case isTrue =>
    rw [String.toList_ofList, List.mem_reverse] at hc
    exact List.mem_reverse.mp ((List.dropWhile_sublist _).mem (List.mem_of_mem_tail hc))

theorem mem_of_mem_majorOf {version : String} {c : Char} (hc : c ∈ (majorOf version).toList) :
    c ∈ version.toList := by
  rw [majorOf, String.toList_ofList] at hc
  exact (List.takeWhile_sublist _).mem hc

/-- The tags of a release are of no other version. -/
theorem eq_of_tag_mem {t : Trigger} (hversion : isVersion t.version = true) {version : String}
    (h : "v" ++ version ∈ t.promoteTags) : version = t.version := by
  have hplain : ∀ text : String, (∀ c ∈ text.toList, c ∈ t.version.toList) →
      "v" ++ version ≠ text := by
    rintro text htext rfl
    have hv := isDigit_or_dot_of_isVersion hversion (htext 'v' (by simp))
    exact absurd hv (by decide)
  simp only [Trigger.promoteTags, List.mem_cons, List.not_mem_nil, or_false] at h
  rcases h with h | h | h | h
  · exact (String.append_right_inj _).mp h
  · exact absurd h (hplain _ fun _ => mem_of_mem_minorOf)
  · exact absurd h (hplain _ fun _ => mem_of_mem_majorOf)
  · have hhead := congrArg (fun s => s.toList.head?) h
    simp at hhead

/-- `imagetools create` sets its tags to the digest and leaves the others. -/
theorem getElem?_retag (images : Map String String) (tags : List String) (digest tag : String) :
    (retag images tags digest)[tag]? = if tag ∈ tags then some digest else images[tag]? := by
  induction tags generalizing images with
  | nil => simp [retag]
  | cons first tags ih =>
    rw [retag, List.foldl_cons, ← retag, ih, Map.getElem?_insert]
    by_cases hfirst : first = tag
    · simp [hfirst]
    · have hne : tag ≠ first := fun heq => hfirst heq.symm
      simp [hfirst, hne]

/-- An image tag of a version is not one of CI. -/
theorem source_ne_tag (sha version : String) : "sha-" ++ sha ≠ "v" ++ version := by
  intro h
  have hhead := congrArg (fun s => s.toList.head?) h
  simp at hhead

/-! ### The invariant -/

namespace Workflow

variable {ι : Type} {w : Workflow ι} {s s' : State ι}

/-- The version of a run. -/
def version (w : Workflow ι) (i : ι) : String := (w.trigger i).version

/-- A run past the check is of a version, and what a guard found still stands when the run is about
to write. -/
structure Inv (w : Workflow ι) (s : State ι) : Prop where
  next : ∀ i, s.next i ≠ some .prep → isVersion (w.version i) = true
  current : ∀ i phase, s.current = some (i, phase) → phase ≠ .prep →
    isVersion (w.version i) = true
  image : ∀ i built, s.current = some (i, .promote true built) →
    s.published.images["v" ++ w.version i]? = built
  chart : ∀ i, s.current = some (i, .chartPush true) → s.published.charts[w.version i]? = none

/-- The invariant holds before anything has run. -/
theorem inv_initial (p : Published) : Inv w (initial p) where
  next i h := absurd rfl h
  current i phase h := by cases h
  image i built h := by cases h
  chart i h := by cases h

/-- A run goes on. -/
theorem Inv.go (h : Inv w s) {i : ι} {phase : Phase} {p : Published} {outputs : ι → Outputs}
    (hversion : phase ≠ .prep → isVersion (w.version i) = true)
    (himage : ∀ built, phase = .promote true built → p.images["v" ++ w.version i]? = built)
    (hchart : phase = .chartPush true → p.charts[w.version i]? = none) :
    Inv w { s with published := p, current := some (i, phase), outputs := outputs } where
  next := h.next
  current j phase' hcurrent hphase := by
    cases hcurrent
    exact hversion hphase
  image j built hcurrent := by
    cases hcurrent
    exact himage built rfl
  chart j hcurrent := by
    cases hcurrent
    exact hchart rfl

/-- The world changes elsewhere. -/
theorem Inv.world (h : Inv w s) {p : Published}
    (himages : ∀ version, p.images["v" ++ version]? = s.published.images["v" ++ version]?)
    (hcharts : p.charts = s.published.charts) : Inv w { s with published := p } where
  next := h.next
  current := h.current
  image i built hcurrent := by rw [himages, h.image i built hcurrent]
  chart i hcurrent := by rw [hcharts, h.chart i hcurrent]

variable [DecidableEq ι]

/-- The job of a run is noted. -/
theorem Inv.update (h : Inv w s) {i : ι} {job : Option Job}
    (hversion : job ≠ some .prep → isVersion (w.version i) = true) :
    Inv w { s with next := Function.update s.next i job } where
  next j hj := by
    simp only [Function.update_apply] at hj
    split_ifs at hj with hji
    · exact hji ▸ hversion hj
    · exact h.next j hj
  current := h.current
  image := h.image
  chart := h.chart

/-- A run stops. -/
theorem Inv.stop (h : Inv w s) {i : ι} {job : Option Job} {p : Published} {outputs : ι → Outputs}
    (hversion : job ≠ some .prep → isVersion (w.version i) = true) :
    Inv w ⟨p, none, Function.update s.next i job, outputs⟩ where
  next := (h.update hversion).next
  current i phase hcurrent := by cases hcurrent
  image i built hcurrent := by cases hcurrent
  chart i hcurrent := by cases hcurrent

/-- A call is one of the run under way. -/
theorem step_call {call : Call} (h : w.step s (.call call) = some s') :
    ∃ i phase p o next, s.current = some (i, phase) ∧
      ActEffect w.chartContent (w.trigger i) s.published (s.outputs i) phase call p o next ∧
      s' = settle s i phase (p, o, next) := by
  obtain ⟨⟨i, phase⟩, hcurrent, hcall⟩ := Option.bind_eq_some_iff.mp h
  obtain ⟨⟨p, o, next⟩, hact, rfl⟩ := Option.map_eq_some_iff.mp hcall
  exact ⟨i, phase, p, o, next, hcurrent, actEffect hact, rfl⟩

theorem Inv.call (h : Inv w s) {call : Call} (hstep : w.step s (.call call) = some s') :
    Inv w s' := by
  obtain ⟨i, phase, p, o, next, hcurrent, heffect, rfl⟩ := step_call hstep
  have hversion := h.current i phase hcurrent
  have hfail : ∀ (p : Published) (outputs : ι → Outputs),
      Inv w ⟨p, none, Function.update s.next i (some phase.job), outputs⟩ := fun _ _ =>
    h.stop fun hjob => hversion (by rintro rfl; exact hjob rfl)
  cases heffect with
  | refused => exact hfail _ _
  | checked hchecked =>
    refine h.go (fun _ => hchecked) (fun built hphase => ?_) fun hphase => ?_
    · split at hphase <;> cases hphase
    · split at hphase <;> cases hphase
  | tagThere | waited | readBack | sameChart | chartRead =>
    exact h.go (fun _ => hversion (by simp)) (fun _ hphase => by cases hphase)
      fun hphase => by cases hphase
  | @tagged _ _ ok =>
    cases ok with
    | true =>
      exact h.go (fun _ => hversion (by simp)) (fun _ hphase => by cases hphase)
        fun hphase => by cases hphase
    | false => exact hfail _ _
  | notFound hnone =>
    refine h.go (fun _ => hversion (by simp)) (fun built hphase => ?_) fun hphase => by cases hphase
    cases hphase
    exact hnone rfl
  | sameImage htag =>
    refine h.go (fun _ => hversion (by simp)) (fun built hphase => ?_) fun hphase => by cases hphase
    cases hphase
    exact htag
  | @promoted _ ok _ pushed _ _ =>
    cases (w.trigger i).promoteTags.all pushed && ok with
    | true =>
      exact h.go (fun _ => hversion (by simp)) (fun _ hphase => by cases hphase)
        fun hphase => by cases hphase
    | false => exact hfail _ _
  | chartNotFound hnone =>
    refine h.go (fun _ => hversion (by simp)) (fun _ hphase => by cases hphase) fun hphase => ?_
    cases hphase
    exact hnone rfl
  | @charted _ ok =>
    cases ok with
    | true =>
      exact h.go (fun _ => hversion (by simp)) (fun _ hphase => by cases hphase)
        fun hphase => by cases hphase
    | false => exact hfail _ _
  | released => exact h.stop fun _ => hversion (by simp)
  | @cut _ ok =>
    cases ok with
    | true => exact h.stop fun _ => hversion (by simp)
    | false => exact hfail _ _

/-- Every event keeps it. -/
theorem Inv.step (h : Inv w s) {e : Event ι} (hstep : w.step s e = some s') : Inv w s' := by
  cases e with
  | start i all =>
    rw [Workflow.step] at hstep
    split at hstep
    case h_2 => cases hstep
    case h_1 job _ hjob =>
      cases hstep
      have hversion : some job ≠ some .prep → isVersion (w.version i) = true := by
        intro hne
        cases all with
        | true => exact absurd hjob.symm hne
        | false => exact h.next i fun hprep => hne (hjob.symm.trans hprep)
      refine (h.update hversion).go (fun hphase => hversion ?_) (fun built hphase => ?_)
        fun hphase => ?_
      · rintro hprep
        cases hprep
        exact hphase rfl
      · cases job <;> cases hphase
      · cases job <;> cases hphase
  | call call => exact h.call hstep
  | crash =>
    obtain ⟨⟨i, phase⟩, hcurrent, rfl⟩ := Option.map_eq_some_iff.mp hstep
    refine h.stop fun hjob => h.current i phase hcurrent ?_
    rintro rfl
    exact hjob rfl
  | ci sha digest =>
    cases hstep
    refine h.world (fun version => ?_) rfl
    rw [Map.getElem?_insert, if_neg (source_ne_tag sha version)]
  | prune sha =>
    cases hstep
    refine h.world (fun version => ?_) rfl
    rw [Map.getElem?_erase, if_neg (source_ne_tag sha version)]
  | pushTag name ref =>
    rw [Workflow.step] at hstep
    split at hstep <;> cases hstep
    exact h.world (fun _ => rfl) rfl

theorem inv_state {p : Published} (x : Execution (step w) (initial p)) (k : ℕ) :
    Inv w (x.state k) :=
  run_induction (Inv w) (fun _ _ _ h hstep => h.step hstep) (inv_initial p) (x.run_take k)

/-! ### What stays -/

/-- The promotion of a release whose guard could not look up the tag, or saw it at a digest that is
no longer the one of the image CI built. -/
def BlindPromotion (w : Workflow ι) (version : String) (s : State ι) (e : Event ι) : Prop :=
  ∃ i looked built pushed ok, s.current = some (i, .promote looked built) ∧
    e = .call (.promote pushed ok) ∧ w.version i = version ∧
    (looked = false ∨
      ∃ digest, built = some digest ∧
        s.published.images[(w.trigger i).source]? ≠ some digest)

/-- The push of a chart that the guard could not look up. -/
def BlindPush (w : Workflow ι) (version : String) (s : State ι) (e : Event ι) : Prop :=
  ∃ i digest ok, s.current = some (i, .chartPush false) ∧ e = .call (.chartPush digest ok) ∧
    w.version i = version

/-- What a step publishes, by what it does. -/
theorem published_step {e : Event ι} (hstep : w.step s e = some s') :
    s'.published = s.published ∨
      (∃ i phase call p o next, e = .call call ∧ s.current = some (i, phase) ∧
        ActEffect w.chartContent (w.trigger i) s.published (s.outputs i) phase call p o next ∧
        s'.published = p) ∨
      (∃ images, (∀ version, images["v" ++ version]? = s.published.images["v" ++ version]?) ∧
        s'.published = { s.published with images := images }) ∨
      ∃ name ref, name ∉ s.published.gitTags ∧
        s'.published = { s.published with gitTags := s.published.gitTags.insert name ref } := by
  cases e with
  | start i all =>
    rw [step] at hstep
    split at hstep <;> cases hstep
    exact .inl rfl
  | call call =>
    obtain ⟨i, phase, p, o, next, hcurrent, heffect, rfl⟩ := step_call hstep
    refine .inr (.inl ⟨i, phase, call, p, o, next, rfl, hcurrent, heffect, ?_⟩)
    cases next <;> rfl
  | crash =>
    obtain ⟨⟨i, phase⟩, hcurrent, rfl⟩ := Option.map_eq_some_iff.mp hstep
    exact .inl rfl
  | ci sha digest =>
    cases hstep
    refine .inr (.inr (.inl ⟨_, fun version => ?_, rfl⟩))
    rw [Map.getElem?_insert, if_neg (source_ne_tag sha version)]
  | prune sha =>
    cases hstep
    refine .inr (.inr (.inl ⟨_, fun version => ?_, rfl⟩))
    rw [Map.getElem?_erase, if_neg (source_ne_tag sha version)]
  | pushTag name ref =>
    rw [step] at hstep
    split at hstep
    case isTrue => cases hstep
    case isFalse habsent =>
      cases hstep
      exact .inr (.inr (.inr ⟨name, ref, habsent, rfl⟩))

/-- An entry is not lost when another one is added. -/
theorem getElem?_insert_of_absent {ν : Type} {m : Map String ν} {name key : String} {v v' : ν}
    (habsent : name ∉ m) (h : m[key]? = some v) : (m.insert name v')[key]? = some v := by
  have hne : name ≠ key := by
    rintro rfl
    exact habsent (Map.mem_of_getElem? h)
  rw [Map.getElem?_insert, if_neg hne, h]

/-- A step leaves the git tags that are there. -/
theorem gitTags_step {e : Event ι} (hstep : w.step s e = some s') {name : String} {ref : GitRef}
    (h : s.published.gitTags[name]? = some ref) : s'.published.gitTags[name]? = some ref := by
  rcases published_step hstep with heq | ⟨i, phase, call, p, o, next, -, -, heffect, heq⟩ |
    ⟨images, -, heq⟩ | ⟨name', ref', habsent, heq⟩
  · rwa [heq]
  · rw [heq]
    cases heffect with
    | tagged habsent => exact getElem?_insert_of_absent habsent h
    | _ => exact h
  · rwa [heq]
  · rw [heq]
    exact getElem?_insert_of_absent habsent h

theorem releases_step {e : Event ι} (hstep : w.step s e = some s') {name : String} {notes : Notes}
    (h : s.published.releases[name]? = some notes) :
    s'.published.releases[name]? = some notes := by
  rcases published_step hstep with heq | ⟨i, phase, call, p, o, next, -, -, heffect, heq⟩ |
    ⟨images, -, heq⟩ | ⟨name', ref', habsent, heq⟩
  · rwa [heq]
  · rw [heq]
    cases heffect with
    | cut habsent => exact getElem?_insert_of_absent habsent h
    | _ => exact h
  · rwa [heq]
  · rwa [heq]

/-- A step leaves the image of a version, or it is a blind promotion. -/
theorem image_step (hinv : Inv w s) {e : Event ι} (hstep : w.step s e = some s')
    {version digest : String} (h : s.published.images["v" ++ version]? = some digest) :
    s'.published.images["v" ++ version]? = some digest ∨ BlindPromotion w version s e := by
  rcases published_step hstep with heq | ⟨i, phase, call, p, o, next, rfl, hcurrent, heffect, heq⟩ |
    ⟨images, himages, heq⟩ | ⟨name', ref', habsent, heq⟩
  · exact .inl (by rwa [heq])
  · rw [heq]
    cases heffect with
    | @promoted looked ok built pushed source hsource =>
      rw [getElem?_retag]
      split_ifs with hmem
      · have hversion := hinv.current i _ hcurrent (by simp)
        have hsame : version = w.version i := eq_of_tag_mem hversion (List.mem_of_mem_filter hmem)
        subst hsame
        by_cases hdigest : source = digest
        · exact .inl (congrArg some hdigest)
        · refine .inr ⟨i, looked, built, pushed, ok, hcurrent, rfl, rfl, ?_⟩
          cases looked with
          | false => exact .inl rfl
          | true =>
            have hbuilt := hinv.image i built hcurrent
            rw [h] at hbuilt
            refine .inr ⟨digest, hbuilt.symm, ?_⟩
            rw [hsource]
            exact fun heq => hdigest (Option.some.inj heq)
      · exact .inl h
    | _ => exact .inl h
  · exact .inl (by rwa [heq, himages])
  · exact .inl (by rwa [heq])

/-- It leaves the chart of a version, or it is a blind push. -/
theorem chart_step (hinv : Inv w s) {e : Event ι} (hstep : w.step s e = some s')
    {version : String} {chart : Chart} (h : s.published.charts[version]? = some chart) :
    s'.published.charts[version]? = some chart ∨ BlindPush w version s e := by
  rcases published_step hstep with heq | ⟨i, phase, call, p, o, next, rfl, hcurrent, heffect, heq⟩ |
    ⟨images, -, heq⟩ | ⟨name', ref', habsent, heq⟩
  · exact .inl (by rwa [heq])
  · rw [heq]
    cases heffect with
    | @charted looked ok digest =>
      by_cases hsame : w.version i = version
      · right
        cases looked with
        | false => exact ⟨i, digest, ok, hcurrent, rfl, hsame⟩
        | true =>
          rw [← hsame, hinv.chart i hcurrent] at h
          cases h
      · left
        dsimp only
        rw [Map.getElem?_insert]
        exact (if_neg hsame).trans h
    | _ => exact .inl h
  · exact .inl (by rwa [heq])
  · exact .inl (by rwa [heq])

/-- **What was published stays.** In every run of the machine a git tag and a GitHub release stay as
they are, and so do the image and the chart of a version, but for a promotion or a push that is
blind. -/
theorem stays_or_blind {p : Published} (x : Execution (step w) (initial p)) (k n : ℕ) :
    (∀ (name : String) (ref : GitRef), (x.state k).published.gitTags[name]? = some ref →
        (x.state (k + n)).published.gitTags[name]? = some ref) ∧
      (∀ (name : String) (notes : Notes), (x.state k).published.releases[name]? = some notes →
        (x.state (k + n)).published.releases[name]? = some notes) ∧
      (∀ version digest : String, (x.state k).published.images["v" ++ version]? = some digest →
        (x.state (k + n)).published.images["v" ++ version]? = some digest ∨
          ∃ j e, k ≤ j ∧ j < k + n ∧ x.events[j]? = some e ∧
            BlindPromotion w version (x.state j) e) ∧
      ∀ (version : String) (chart : Chart), (x.state k).published.charts[version]? = some chart →
        (x.state (k + n)).published.charts[version]? = some chart ∨
          ∃ j e, k ≤ j ∧ j < k + n ∧ x.events[j]? = some e ∧ BlindPush w version (x.state j) e := by
  refine ⟨fun name ref h => ?_, fun name notes h => ?_, fun version digest h => ?_,
    fun version chart h => ?_⟩
  · exact x.stays (P := fun s => s.published.gitTags[name]? = some ref)
      (fun _ _ _ hP hstep => gitTags_step hstep hP) h n
  · exact x.stays (P := fun s => s.published.releases[name]? = some notes)
      (fun _ _ _ hP hstep => releases_step hstep hP) h n
  · exact x.stays_or (P := fun s => s.published.images["v" ++ version]? = some digest)
      (fun j hj hP => image_step (inv_state x j) (x.state_succ hj) hP) h n
  · exact x.stays_or (P := fun s => s.published.charts[version]? = some chart)
      (fun j hj hP => chart_step (inv_state x j) (x.state_succ hj) hP) h n

end Workflow

end Jmap2Telegram.Release
