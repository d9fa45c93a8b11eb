import Jmap2Telegram.ForStd.Shell
import Jmap2Telegram.ForStd.TreeMap
import Jmap2Telegram.Transition.Execution

/-!
# Releasing a version

`release.yml`, with the decisions of `release-guards.sh`, one outside call at a time. A run checks
the version, makes sure of the git tag, waits for the image CI built of its commit, gives that image
the tags of the release, packages and pushes the chart, and cuts the GitHub release. Any call may
fail, or the job may be lost; a run can then be started again, all of it or from the job that
failed. At most one run is under way. CI and the pruning of old images go on meanwhile.

* `act`: the next call of a run.
* `step`: the machine.
* `actEffect`: all that a call can change of what is published.
-/

namespace Jmap2Telegram.Release

open Shell

/-! ### Versions -/

/-- `[[ "$version" =~ ^[0-9]+\.[0-9]+\.[0-9]+$ ]]`. -/
def isVersion (version : String) : Bool :=
  match version.toList.splitOn '.' with
  | [major, minor, patch] =>
    [major, minor, patch].all fun part => !part.isEmpty && part.all Char.isDigit
  | _ => false

/-- `${VERSION%.*}`. -/
def minorOf (version : String) : String :=
  if '.' ∈ version.toList then
    String.ofList (version.toList.reverse.dropWhile fun c => c ≠ '.').tail.reverse
  else version

/-- `${VERSION%%.*}`. -/
def majorOf (version : String) : String :=
  String.ofList (version.toList.takeWhile fun c => c ≠ '.')

/-- `s/^version *= *"\(.*\)"/\1/p`, on one line. -/
def sedVersion (line : List Char) : Option (List Char) :=
  if "version".toList.isPrefixOf line then
    match (line.drop "version".length).dropWhile fun c => c == ' ' with
    | '=' :: rest =>
      match rest.dropWhile fun c => c == ' ' with
      | '"' :: value =>
        -- the group goes up to the last quote of the line
        match value.reverse.dropWhile fun c => c ≠ '"' with
        | [] => none
        | _ :: group => some (group.reverse ++ (value.reverse.takeWhile fun c => c ≠ '"').reverse)
      | _ => none
    | _ => none
  else none

/-- The version in a `Cargo.toml`. -/
def crateVersion (cargoToml : String) : String :=
  let found := (cargoToml.toList.splitOn '\n').filterMap sedVersion
  String.ofList ((found.head?.getD []).filter fun c => c ≠ '\r')

/-! ### What is published -/

/-- What a git tag points at: a commit, or a tag object that names one. -/
inductive GitRef where
  | commit (sha : String)
  | annotated (sha : String)

/-- The commit the tag is of. -/
def GitRef.sha : GitRef → String
  | commit sha | annotated sha => sha

/-- A published chart: the digest of its tarball, and its content. -/
structure Chart where
  digest : String
  content : String

/-- What the notes of a GitHub release say. -/
structure Notes where
  image : String
  chart : String
  sha : String
  deriving DecidableEq

/-- What the world sees: the git tags, the tags of the image and the charts with what they point at,
and the GitHub releases. -/
structure Published where
  gitTags : Map String GitRef
  images : Map String String
  charts : Map String Chart
  releases : Map String Notes

/-! ### A run -/

/-- What started a run: a form with a version or a git tag of that name, and the commit. -/
structure Trigger where
  dispatch : Bool
  name : String
  sha : String

namespace Trigger

variable (t : Trigger)

/-- `steps.version.outputs.version`, before its check. -/
def version : String := if t.dispatch then t.name else dropPrefix "v" t.name

/-- `v${VERSION}`. -/
def tag : String := "v" ++ t.version

/-- The tag CI gives to the image of the commit. -/
def source : String := "sha-" ++ t.sha

/-- The tags of the release. -/
def promoteTags : List String := [t.tag, minorOf t.version, majorOf t.version, "latest"]

end Trigger

inductive Job where
  | prep
  | promote
  | helm
  | githubRelease
  deriving DecidableEq

/-- Where a run is: about to make this call. -/
inductive Phase where
  | prep
  | tag
  | wait
  | imageGuard
  /-- With whether the guard could look up the tag of the release, and the digest of the source it
  read if it found one there. -/
  | promote (looked : Bool) (built : Option String)
  | readBack
  | chartGuard
  /-- With whether the guard could look up the chart. -/
  | chartPush (looked : Bool)
  | chartRead
  | cut

/-- The job a phase is in. -/
def Phase.job : Phase → Job
  | prep | tag => .prep
  | wait | imageGuard | promote _ _ | readBack => .promote
  | chartGuard | chartPush _ | chartRead => .helm
  | cut => .githubRelease

/-- Where a job begins. -/
def Job.first : Job → Phase
  | prep => .prep
  | promote => .wait
  | helm => .chartGuard
  | githubRelease => .cut

/-- The outputs of the jobs that a later job reads. -/
structure Outputs where
  imageDigest : Option String
  chartDigest : Option String

/-- The next call of a run, and how it comes out. A lookup that fails reads as one that finds
nothing, wherever the script takes it so; a call that changes something may have done so and still
fail. -/
inductive Call where
  | prep
  | tag (refLooked objectLooked ok : Bool)
  | wait
  | imageGuard (looked : Bool)
  | promote (pushed : String → Bool) (ok : Bool)
  | readBack
  | chartGuard (looked : Bool)
  | chartPush (digest : String) (ok : Bool)
  | chartRead
  | cut (looked ok : Bool)

/-- How a run goes on. -/
inductive Next where
  | go (phase : Phase)
  | fail
  | done

/-- `imagetools create`: these tags point at the digest. -/
def retag (images : Map String String) (tags : List String) (digest : String) :
    Map String String :=
  tags.foldl (fun images tag => images.insert tag digest) images

section

variable (cargoToml : String → String) (chartContent : String → String → String) (t : Trigger)
  (p : Published) (o : Outputs)

/-- `existing_sha` of `cmd_tag`. -/
def existingSha (refLooked objectLooked : Bool) : Option String :=
  if refLooked then
    p.gitTags[t.tag]?.bind fun
      | .commit sha => some sha
      | .annotated sha => if objectLooked then some sha else none
  else none

/-- A call of a run, which the phase makes: what is published then, the outputs, and how the run
goes on. -/
def act : Phase → Call → Option (Published × Outputs × Next)
  | .prep, .prep =>
    some (p, o,
      if isVersion t.version ∧ crateVersion (cargoToml t.sha) = t.version then
        .go (if t.dispatch then .tag else .wait)
      else .fail)
  | .tag, .tag refLooked objectLooked ok =>
    match existingSha t p refLooked objectLooked with
    | some sha => some (p, o, if sha = t.sha then .go .wait else .fail)
    | none =>
      -- the API refuses to create a tag that exists
      if t.tag ∈ p.gitTags then some (p, o, .fail)
      else
        some ({ p with gitTags := p.gitTags.insert t.tag (.commit t.sha) }, o,
          if ok then .go .wait else .fail)
  | .wait, .wait => some (p, o, if t.source ∈ p.images then .go .imageGuard else .fail)
  | .imageGuard, .imageGuard looked =>
    match if looked then p.images[t.tag]? else none with
    | none => some (p, o, .go (.promote looked none))
    | some published =>
      some (p, o,
        if p.images[t.source]? = some published then .go (.promote looked (some published))
        else .fail)
  | .promote _ _, .promote pushed ok =>
    match p.images[t.source]? with
    | none => some (p, o, .fail)
    | some digest =>
      some ({ p with images := retag p.images (t.promoteTags.filter pushed) digest }, o,
        if t.promoteTags.all pushed && ok then .go .readBack else .fail)
  | .readBack, .readBack =>
    match p.images[t.tag]? with
    | none => some (p, o, .fail)
    | some digest => some (p, { o with imageDigest := some digest }, .go .chartGuard)
  | .chartGuard, .chartGuard looked =>
    match if looked then p.charts[t.version]? else none with
    | none => some (p, o, .go (.chartPush looked))
    | some chart =>
      some (p, o, if chart.content = chartContent t.sha t.version then .go .chartRead else .fail)
  | .chartPush _, .chartPush digest ok =>
    some ({ p with
      charts := p.charts.insert t.version ⟨digest, chartContent t.sha t.version⟩ }, o,
      if ok then .go .chartRead else .fail)
  | .chartRead, .chartRead =>
    match p.charts[t.version]? with
    | none => some (p, o, .fail)
    | some chart => some (p, { o with chartDigest := some chart.digest }, .go .cut)
  | .cut, .cut looked ok =>
    if t.tag ∈ p.releases then some (p, o, if looked then .done else .fail)
    else if t.tag ∈ p.gitTags then
      let notes := ⟨o.imageDigest.getD "", o.chartDigest.getD "", t.sha⟩
      some ({ p with releases := p.releases.insert t.tag notes }, o, if ok then .done else .fail)
    else some (p, o, .fail)
  | _, _ => none

/-- All a call can do, with what it takes: one case for each way through `act`. -/
inductive ActEffect : Phase → Call → Published → Outputs → Next → Prop where
  /-- The call fails or the script refuses, and nothing changes. -/
  | refused {phase : Phase} {call : Call} : ActEffect phase call p o .fail
  | checked (hversion : isVersion t.version = true) :
    ActEffect .prep .prep p o (.go (if t.dispatch then .tag else .wait))
  | tagThere {refLooked objectLooked ok : Bool} (hthere : t.tag ∈ p.gitTags) :
    ActEffect .tag (.tag refLooked objectLooked ok) p o (.go .wait)
  | tagged {refLooked objectLooked ok : Bool} (habsent : t.tag ∉ p.gitTags) :
    ActEffect .tag (.tag refLooked objectLooked ok)
      { p with gitTags := p.gitTags.insert t.tag (.commit t.sha) } o
      (if ok then .go .wait else .fail)
  | waited : ActEffect .wait .wait p o (.go .imageGuard)
  | notFound {looked : Bool} (hnone : looked = true → p.images[t.tag]? = none) :
    ActEffect .imageGuard (.imageGuard looked) p o (.go (.promote looked none))
  | sameImage {published : String} (htag : p.images[t.tag]? = some published) :
    ActEffect .imageGuard (.imageGuard true) p o (.go (.promote true (some published)))
  | promoted {looked ok : Bool} {built : Option String} {pushed : String → Bool} {digest : String}
    (hsource : p.images[t.source]? = some digest) :
    ActEffect (.promote looked built) (.promote pushed ok)
      { p with images := retag p.images (t.promoteTags.filter pushed) digest } o
      (if t.promoteTags.all pushed && ok then .go .readBack else .fail)
  | readBack {digest : String} (htag : p.images[t.tag]? = some digest) :
    ActEffect .readBack .readBack p { o with imageDigest := some digest } (.go .chartGuard)
  | chartNotFound {looked : Bool} (hnone : looked = true → p.charts[t.version]? = none) :
    ActEffect .chartGuard (.chartGuard looked) p o (.go (.chartPush looked))
  | sameChart {looked : Bool} (hthere : t.version ∈ p.charts) :
    ActEffect .chartGuard (.chartGuard looked) p o (.go .chartRead)
  | charted {looked ok : Bool} {digest : String} :
    ActEffect (.chartPush looked) (.chartPush digest ok)
      { p with charts := p.charts.insert t.version ⟨digest, chartContent t.sha t.version⟩ } o
      (if ok then .go .chartRead else .fail)
  | chartRead {chart : Chart} (hchart : p.charts[t.version]? = some chart) :
    ActEffect .chartRead .chartRead p { o with chartDigest := some chart.digest } (.go .cut)
  | released {ok : Bool} : ActEffect .cut (.cut true ok) p o .done
  | cut {looked ok : Bool} (habsent : t.tag ∉ p.releases) :
    ActEffect .cut (.cut looked ok)
      { p with releases :=
          p.releases.insert t.tag ⟨o.imageDigest.getD "", o.chartDigest.getD "", t.sha⟩ } o
      (if ok then .done else .fail)

variable {cargoToml chartContent t p o} {phase : Phase} {call : Call} {p' : Published}
  {o' : Outputs} {next : Next}

/-- Every call does one of those. -/
theorem actEffect (h : act cargoToml chartContent t p o phase call = some (p', o', next)) :
    ActEffect chartContent t p o phase call p' o' next := by
  unfold act at h
  split at h
  case h_1 =>
    cases h
    split
    case isTrue hok => exact .checked hok.1
    case isFalse => exact .refused
  case h_2 refLooked objectLooked ok =>
    split at h
    case h_1 sha hsha =>
      cases h
      split
      case isTrue =>
        rw [existingSha] at hsha
        split at hsha
        case isTrue =>
          obtain ⟨ref, href, -⟩ := Option.bind_eq_some_iff.mp hsha
          exact .tagThere (Map.mem_of_getElem? href)
        case isFalse => cases hsha
      case isFalse => exact .refused
    case h_2 =>
      split at h <;> cases h
      case isTrue => exact .refused
      case isFalse habsent => exact .tagged habsent
  case h_3 =>
    cases h
    split
    case isTrue => exact .waited
    case isFalse => exact .refused
  case h_4 looked =>
    split at h
    case h_1 hnone =>
      cases h
      exact .notFound fun hlooked => by rwa [if_pos hlooked] at hnone
    case h_2 published hpublished =>
      cases h
      split
      case isTrue =>
        cases looked with
        | true => exact .sameImage hpublished
        | false => cases hpublished
      case isFalse => exact .refused
  case h_5 =>
    split at h <;> cases h
    case h_1 => exact .refused
    case h_2 hsource => exact .promoted hsource
  case h_6 =>
    split at h <;> cases h
    case h_1 => exact .refused
    case h_2 htag => exact .readBack htag
  case h_7 looked =>
    split at h
    case h_1 hnone =>
      cases h
      exact .chartNotFound fun hlooked => by rwa [if_pos hlooked] at hnone
    case h_2 chart hchart =>
      cases h
      split
      case isTrue =>
        cases looked with
        | true => exact .sameChart (Map.mem_of_getElem? hchart)
        | false => cases hchart
      case isFalse => exact .refused
  case h_8 =>
    cases h
    exact .charted
  case h_9 =>
    split at h <;> cases h
    case h_1 => exact .refused
    case h_2 hchart => exact .chartRead hchart
  case h_10 looked ok =>
    split at h
    case isTrue =>
      cases h
      cases looked with
      | true => exact .released
      | false => exact .refused
    case isFalse habsent =>
      split at h <;> cases h
      case isTrue => exact .cut habsent
      case isFalse => exact .refused
  case h_11 => cases h

end

/-! ### The machine -/

/-- The repository and the runs of the workflow. -/
structure Workflow (ι : Type) where
  trigger : ι → Trigger
  cargoToml : String → String
  chartContent : String → String → String

/-- What is published, the run under way, and of each run the job it was started at last or that
failed then, if it is not done, and its outputs. -/
structure State (ι : Type) where
  published : Published
  current : Option (ι × Phase)
  next : ι → Option Job
  outputs : ι → Outputs

inductive Event (ι : Type) where
  /-- A run is started, or started again: all of it, or from the job that failed. -/
  | start (i : ι) (all : Bool)
  | call (call : Call)
  /-- The job of the run under way is lost, or its call fails and changes nothing. -/
  | crash
  /-- CI publishes an image of a commit. -/
  | ci (sha digest : String)
  /-- The image of a commit is pruned. -/
  | prune (sha : String)
  /-- Someone pushes a new git tag. -/
  | pushTag (name : String) (ref : GitRef)

namespace Workflow

variable {ι : Type} [DecidableEq ι] (w : Workflow ι)

/-- Before the first run. -/
def initial (p : Published) : State ι where
  published := p
  current := none
  next _ := some .prep
  outputs _ := ⟨none, none⟩

/-- A call has come out. -/
def settle (s : State ι) (i : ι) (phase : Phase) :
    Published × Outputs × Next → State ι
  | (p, o, .go phase') =>
    { s with published := p, current := some (i, phase'), outputs := Function.update s.outputs i o }
  | (p, o, .fail) =>
    { published := p
      current := none
      next := Function.update s.next i (some phase.job)
      outputs := Function.update s.outputs i o }
  | (p, o, .done) =>
    { published := p
      current := none
      next := Function.update s.next i none
      outputs := Function.update s.outputs i o }

/-- One step. -/
def step (s : State ι) : Event ι → Option (State ι)
  | .start i all =>
    match s.current, if all then some Job.prep else s.next i with
    | none, some job =>
      some { s with
        current := some (i, job.first)
        next := Function.update s.next i (some job)
        outputs := if all then Function.update s.outputs i ⟨none, none⟩ else s.outputs }
    | _, _ => none
  | .call call =>
    s.current.bind fun (i, phase) =>
      (act w.cargoToml w.chartContent (w.trigger i) s.published (s.outputs i) phase call).map
        (settle s i phase)
  | .crash =>
    s.current.map fun (i, phase) =>
      { s with current := none, next := Function.update s.next i (some phase.job) }
  | .ci sha digest =>
    some { s with
      published := { s.published with images := s.published.images.insert ("sha-" ++ sha) digest } }
  | .prune sha =>
    some { s with
      published := { s.published with images := s.published.images.erase ("sha-" ++ sha) } }
  | .pushTag name ref =>
    if name ∈ s.published.gitTags then none
    else
      some { s with
        published := { s.published with gitTags := s.published.gitTags.insert name ref } }

end Workflow

end Jmap2Telegram.Release
