import Jmap2Telegram.Prune.Candidates
import Jmap2Telegram.Transition.Execution
import Mathlib.Data.List.Induction

/-!
# What pruning comes to

A run deletes what it selected, one call after another, and stops at the first call that fails; the
next run selects anew, at another time and perhaps with other commits released. Rule 2 takes away
the image of an old commit, and what only that image pointed at is for rule 1 of a later run.

* `mem_deleteTsv`: what a run selects.
* `Run.Agrees`: the circumstances of a run make no difference to a version of the package.
* `prune_settles`: after two runs without a failing call there is nothing left to select, and what
  is left of the package does not depend on the runs.
-/

namespace Jmap2Telegram.Prune

open Shell Transition

/-- A package without some of its versions. -/
def Inventory.without (inventory : Inventory) (ids : List ℕ) : Inventory where
  versions := inventory.versions.filter fun version => version.id ∉ ids
  nodup := inventory.nodup.sublist (List.filter_sublist.map _)

theorem Inventory.mem_without {inventory : Inventory} {ids : List ℕ} {version : Version} :
    version ∈ (inventory.without ids).versions ↔
      version ∈ inventory.versions ∧ version.id ∉ ids := by
  simp [Inventory.without]

/-- What a run meets besides the package: the clock, the commits of the repository, which calls of
`imagetools inspect` fail and what `grep` does with options, and after how many calls a deletion
fails, if one does. -/
structure Circumstances where
  inspectFails : Digest → Bool
  released : List Commit
  headSha : String
  cutoff : String
  ageCutoff : String
  grepOptions : String → List CommitLine → Bool × ℕ
  failure : Option ℕ

namespace Run

variable (r : Run)

/-! ### A run of the script -/

/-- The rounds a walk has at most. -/
def rounds : ℕ := r.graph.nodes.length + 1

/-- A later run on what is left of the package. -/
def under (later : Circumstances) (inventory : Inventory) : Run where
  inventory := inventory
  graph := r.graph
  inspectFails := later.inspectFails
  released := later.released
  headSha := later.headSha
  cutoff := later.cutoff
  ageCutoff := later.ageCutoff
  grepOptions := later.grepOptions

/-- One run of the script on what is left of the package: all its calls succeed, or the one after
so many fails. -/
def prune (inventory : Inventory) (later : Circumstances) : Option Inventory :=
  ((r.under later inventory).deleteTsv r.rounds).map fun ids =>
    inventory.without
      (match later.failure with
      | none => ids
      | some calls => ids.take calls)

/-! ### What is selected -/

/-- No version has `sha-*` tags only that `grep` takes for options. -/
def NoOptions : Prop :=
  ∀ version ∈ r.inventory.versions, version.ShaOnly →
    startsWith "-" (dropPrefix "sha-" version.field) = false

/-- What rule 2 is for. -/
structure Stale (version : Version) : Prop where
  shaOnly : version.ShaOnly
  unreleased : grepX (dropPrefix "sha-" version.field) r.releasedTxt = false
  not_head : ¬(r.headSha ≠ "" ∧ dropPrefix "sha-" version.field = r.headSha)
  old : ¬r.ageCutoff < version.createdAt

instance : DecidablePred r.Stale := fun version =>
  decidable_of_iff
    (version.ShaOnly ∧ grepX (dropPrefix "sha-" version.field) r.releasedTxt = false ∧
      ¬(r.headSha ≠ "" ∧ dropPrefix "sha-" version.field = r.headSha) ∧
      ¬r.ageCutoff < version.createdAt)
    ⟨fun h => ⟨h.1, h.2.1, h.2.2.1, h.2.2.2⟩, fun h => ⟨h.1, h.2, h.3, h.4⟩⟩

/-- The digests of the tagged versions that are not stale. -/
def lasting : List Digest :=
  (r.inventory.versions.filter fun version => version.tags ≠ [] ∧ ¬r.Stale version).map
    Version.name

/-- What is left in the end: what has a tag and is not stale, what such a version leads to, and what
is of the last hour. -/
def Survives (version : Version) : Prop :=
  ¬r.Stale version ∧
    (version.tags = [] →
      r.cutoff < version.createdAt ∨ r.inspected.Reachable r.lasting version.name)

/-- The circumstances of a later run make no difference to a version of the package: it has not
become stale or stopped being so, it has not got older than an hour, and what lasts leads to it as
before. -/
structure Agrees (later : Circumstances) : Prop where
  stale : ∀ version ∈ r.inventory.versions,
    ((r.under later r.inventory).Stale version ↔ r.Stale version)
  young : ∀ version ∈ r.inventory.versions,
    (later.cutoff < version.createdAt ↔ r.cutoff < version.createdAt)
  leads : ∀ version ∈ r.inventory.versions, version.tags = [] →
    ((r.under later r.inventory).inspected.Reachable r.lasting version.name ↔
      r.inspected.Reachable r.lasting version.name)

variable {r : Run} {version : Version}

/-- Without options, every line gets a turn. -/
theorem exists_mem_turns {lines : List CommitLine}
    (h : ∀ line ∈ lines, startsWith "-" (dropPrefix "sha-" line.tag) = false)
    {line : CommitLine} (hline : line ∈ lines) : ∃ stdin, (line, stdin) ∈ r.turns lines := by
  induction lines with
  | nil => exact absurd hline List.not_mem_nil
  | cons first lines ih =>
    have hafter : r.afterTurn first lines = lines := by
      rw [afterTurn, grepReleased, h first List.mem_cons_self]
      simp
    rw [turns, hafter]
    rcases List.mem_cons.mp hline with rfl | hline
    · exact ⟨lines, List.mem_cons_self⟩
    · obtain ⟨stdin, hturn⟩ := ih (fun line hl => h line (List.mem_cons_of_mem _ hl)) hline
      exact ⟨stdin, List.mem_cons_of_mem _ hturn⟩

/-- Without options, rule 2 selects what is stale. -/
theorem id_mem_staleTags_iff (hoptions : r.NoOptions)
    (hversion : version ∈ r.inventory.versions) :
    version.id ∈ r.staleTags r.commitsTsv ↔ r.Stale version := by
  have hplain : version.ShaOnly → ∀ stdin,
      r.grepReleased (dropPrefix "sha-" version.field) stdin =
        (grepX (dropPrefix "sha-" version.field) r.releasedTxt, stdin) := by
    intro hsha stdin
    rw [grepReleased, hoptions version hversion hsha]
    simp
  rw [id_mem_staleTags hversion]
  constructor
  · rintro ⟨stdin, hturn, hdeletes⟩
    obtain ⟨version', hversion', hsha, hline⟩ := mem_commitsTsv.mp (mem_of_mem_turns hturn)
    obtain rfl := r.inventory.eq_of_id_eq hversion' hversion (congrArg CommitLine.id hline)
    have hunreleased := hdeletes.unreleased
    rw [Version.commitLine, hplain hsha] at hunreleased
    exact ⟨hsha, hunreleased, hdeletes.not_head, hdeletes.old⟩
  · intro hstale
    have hlines : ∀ line ∈ r.commitsTsv, startsWith "-" (dropPrefix "sha-" line.tag) = false := by
      intro line hline
      obtain ⟨version', hversion', hsha, rfl⟩ := mem_commitsTsv.mp hline
      exact hoptions version' hversion' hsha
    obtain ⟨stdin, hturn⟩ := exists_mem_turns hlines
      (mem_commitsTsv.mpr ⟨version, hversion, hstale.shaOnly, rfl⟩)
    obtain ⟨commits, hfield⟩ := hstale.shaOnly.exists_field
    refine ⟨stdin, hturn, ?_, ?_, hstale.not_head, hstale.old⟩
    · rw [Version.commitLine, hfield]
      exact startsWith_append _ _
    · rw [Version.commitLine, hplain hstale.shaOnly]
      exact hstale.unreleased

/-- What a run selects. -/
theorem mem_deleteTsv (hoptions : r.NoOptions) {fuel : ℕ} {ids : List ℕ}
    (hids : r.deleteTsv fuel = some ids) (hversion : version ∈ r.inventory.versions) :
    version.id ∈ ids ↔
      (version.tags = [] ∧ ¬r.inspected.Reachable r.tagged version.name ∧
          ¬r.cutoff < version.createdAt) ∨
        r.Stale version := by
  obtain ⟨protectedTxt, hprotected, rfl⟩ := Option.map_eq_some_iff.mp hids
  rw [List.mem_append, id_mem_staleTags_iff hoptions hversion, mem_orphans]
  refine or_congr_left ?_
  constructor
  · rintro ⟨version', hversion', hid, htags, hname, hold⟩
    obtain rfl := r.inventory.eq_of_id_eq hversion' hversion hid
    exact ⟨htags, fun h => hname ((mem_protectedDigests hprotected _).mpr h), hold⟩
  · rintro ⟨htags, hname, hold⟩
    exact ⟨version, hversion, rfl, htags,
      fun h => hname ((mem_protectedDigests hprotected _).mp h), hold⟩

/-- It selects versions of the package. -/
theorem exists_of_mem_deleteTsv {fuel : ℕ} {ids : List ℕ} (hids : r.deleteTsv fuel = some ids)
    {id : ℕ} (hid : id ∈ ids) : ∃ version ∈ r.inventory.versions, version.id = id := by
  obtain ⟨protectedTxt, -, rfl⟩ := Option.map_eq_some_iff.mp hids
  rcases List.mem_append.mp hid with horphan | hstale
  · obtain ⟨version, hversion, hid, -⟩ := mem_orphans.mp horphan
    exact ⟨version, hversion, hid⟩
  · obtain ⟨line, stdin, hturn, -, hid⟩ := mem_staleTags.mp hstale
    obtain ⟨version, hversion, -, rfl⟩ := mem_commitsTsv.mp (mem_of_mem_turns hturn)
    exact ⟨version, hversion, hid⟩

/-! ### Run after run -/

variable {i i' : Inventory} {later : Circumstances}

/-- How old a version is does not change from one run to the next. -/
theorem stale_under : (r.under later i).Stale version ↔ (r.under later i').Stale version :=
  ⟨fun h => ⟨h.1, h.2, h.3, h.4⟩, fun h => ⟨h.1, h.2, h.3, h.4⟩⟩

/-- What a run does: it deletes some of what it selects, or all. -/
theorem prune_eq_some (h : r.prune i later = some i') :
    ∃ ids deleted, (r.under later i).deleteTsv r.rounds = some ids ∧ i' = i.without deleted ∧
      deleted ⊆ ids ∧ (later.failure = none → deleted = ids) := by
  obtain ⟨ids, hids, rfl⟩ := Option.map_eq_some_iff.mp h
  rcases hfailure : later.failure with - | calls
  · exact ⟨ids, ids, hids, rfl, List.Subset.refl ids, fun _ => rfl⟩
  · exact ⟨ids, ids.take calls, hids, rfl, List.take_subset calls ids, fun hnone => nomatch hnone⟩

/-- The package between two runs: what survives is there, and nothing new. -/
structure Left (r : Run) (i : Inventory) : Prop where
  sub : ∀ version ∈ i.versions, version ∈ r.inventory.versions
  survivors : ∀ version ∈ r.inventory.versions, r.Survives version → version ∈ i.versions

theorem Left.noOptions (h : Left r i) (hoptions : r.NoOptions) : (r.under later i).NoOptions :=
  fun version hversion => hoptions version (h.sub version hversion)

/-- A version that is left is stale for a later run if it is for the first. -/
theorem Left.stale_iff (h : Left r i) (hagrees : r.Agrees later) (hversion : version ∈ i.versions) :
    (r.under later i).Stale version ↔ r.Stale version :=
  stale_under.trans (hagrees.stale version (h.sub version hversion))

/-- The tagged versions that last are there. -/
theorem Left.lasting_subset (h : Left r i) : r.lasting ⊆ (r.under later i).tagged := by
  intro digest hdigest
  simp only [lasting, List.mem_map, List.mem_filter, decide_eq_true_eq] at hdigest
  obtain ⟨version, ⟨hversion, htags, hstale⟩, rfl⟩ := hdigest
  have hleft := h.survivors version hversion ⟨hstale, fun hnone => absurd hnone htags⟩
  exact List.mem_map_of_mem (List.mem_filter.mpr ⟨hleft, decide_eq_true htags⟩)

/-- With no stale version there, they are all the tagged ones. -/
theorem Left.tagged_subset (h : Left r i) (hstale : ∀ version ∈ i.versions, ¬r.Stale version) :
    (r.under later i).tagged ⊆ r.lasting := by
  intro digest hdigest
  simp only [tagged, List.mem_map, List.mem_filter, decide_eq_true_eq] at hdigest
  obtain ⟨version, ⟨hversion, htags⟩, rfl⟩ := hdigest
  exact List.mem_map_of_mem (List.mem_filter.mpr
    ⟨h.sub version hversion, decide_eq_true ⟨htags, hstale version hversion⟩⟩)

/-- More roots reach more. -/
theorem reachable_mono {roots roots' : List Digest} (h : roots ⊆ roots') {digest : Digest}
    (hdigest : r.inspected.Reachable roots digest) : r.inspected.Reachable roots' digest :=
  hdigest.imp fun _ hroot => ⟨h hroot.1, hroot.2⟩

/-- No run selects what survives. -/
theorem Left.not_selected (h : Left r i) (hoptions : r.NoOptions) (hagrees : r.Agrees later)
    {ids : List ℕ} (hids : (r.under later i).deleteTsv r.rounds = some ids)
    (hversion : version ∈ i.versions) (hsurvives : r.Survives version) : version.id ∉ ids := by
  rw [mem_deleteTsv (h.noOptions hoptions) hids hversion, h.stale_iff hagrees hversion]
  rintro (⟨htags, hname, hold⟩ | hstale)
  · have hthere := h.sub version hversion
    rcases hsurvives.2 htags with hyoung | hreach
    · exact hold ((hagrees.young version hthere).mpr hyoung)
    · have hleads : (r.under later i).inspected.Reachable r.lasting version.name :=
        (hagrees.leads version hthere htags).mpr hreach
      exact hname (reachable_mono h.lasting_subset hleads)
  · exact hsurvives.1 hstale

/-- A run that agrees with the first leaves what the first left. -/
theorem Left.prune (h : Left r i) (hoptions : r.NoOptions) (hagrees : r.Agrees later)
    (hprune : r.prune i later = some i') : Left r i' := by
  obtain ⟨ids, deleted, hids, rfl, hsub, -⟩ := prune_eq_some hprune
  refine ⟨fun version hversion => h.sub version (Inventory.mem_without.mp hversion).1, ?_⟩
  intro version hversion hsurvives
  have hleft := h.survivors version hversion hsurvives
  exact Inventory.mem_without.mpr ⟨hleft, fun hmem =>
    h.not_selected hoptions hagrees hids hleft hsurvives (hsub hmem)⟩

/-- After a run without a failing call no version is stale. -/
theorem Left.not_stale (h : Left r i) (hoptions : r.NoOptions) (hagrees : r.Agrees later)
    (hclean : later.failure = none) (hprune : r.prune i later = some i') :
    ∀ version ∈ i'.versions, ¬r.Stale version := by
  obtain ⟨ids, deleted, hids, rfl, -, hall⟩ := prune_eq_some hprune
  intro version hversion hstale
  obtain ⟨hleft, hnot⟩ := Inventory.mem_without.mp hversion
  rw [hall hclean, mem_deleteTsv (h.noOptions hoptions) hids hleft,
    h.stale_iff hagrees hleft] at hnot
  exact hnot (.inr hstale)

/-- After another one all that is left survives. -/
theorem Left.settled (h : Left r i) (hoptions : r.NoOptions) (hagrees : r.Agrees later)
    (hclean : later.failure = none) (hstale : ∀ version ∈ i.versions, ¬r.Stale version)
    (hprune : r.prune i later = some i') : ∀ version ∈ i'.versions, r.Survives version := by
  obtain ⟨ids, deleted, hids, rfl, -, hall⟩ := prune_eq_some hprune
  intro version hversion
  obtain ⟨hleft, hnot⟩ := Inventory.mem_without.mp hversion
  have hthere := h.sub version hleft
  rw [hall hclean, mem_deleteTsv (h.noOptions hoptions) hids hleft] at hnot
  refine ⟨hstale version hleft, fun htags => ?_⟩
  by_contra hneither
  rw [not_or] at hneither
  refine hnot (.inl ⟨htags, fun hreach => hneither.2 ?_,
    fun hyoung => hneither.1 ((hagrees.young version hthere).mp hyoung)⟩)
  exact (hagrees.leads version hthere htags).mp (reachable_mono (h.tagged_subset hstale) hreach)

/-- A run adds no version. -/
theorem mem_of_prune (h : r.prune i later = some i') (hversion : version ∈ i'.versions) :
    version ∈ i.versions := by
  obtain ⟨ids, deleted, -, rfl, -, -⟩ := prune_eq_some h
  exact (Inventory.mem_without.mp hversion).1

/-- The runs without a failing call. -/
def clean (laters : List Circumstances) : ℕ := laters.countP fun later => later.failure.isNone

theorem clean_concat (laters : List Circumstances) (later : Circumstances) :
    clean (laters ++ [later]) = clean laters + if later.failure.isNone then 1 else 0 := by
  rw [clean, clean, List.countP_append, List.countP_singleton]

/-- What a sequence of runs leaves, by the number of those without a failing call. -/
theorem left_run (hoptions : r.NoOptions) {laters : List Circumstances}
    (hagrees : ∀ later ∈ laters, r.Agrees later)
    (h : run r.prune r.inventory laters = some i) :
    Left r i ∧ (1 ≤ clean laters → ∀ version ∈ i.versions, ¬r.Stale version) ∧
      (2 ≤ clean laters → ∀ version ∈ i.versions, r.Survives version) := by
  induction laters using List.reverseRecOn generalizing i with
  | nil =>
    cases h
    exact ⟨⟨fun _ => id, fun _ hversion _ => hversion⟩, by simp [clean], by simp [clean]⟩
  | append_singleton laters later ih =>
    rw [run_concat, Option.bind_eq_some_iff] at h
    obtain ⟨m, hm, hprune⟩ := h
    rw [List.forall_mem_append, List.forall_mem_singleton] at hagrees
    obtain ⟨hbefore, hlater⟩ := hagrees
    obtain ⟨hleft, hstale, hsettled⟩ := ih hbefore hm
    refine ⟨hleft.prune hoptions hlater hprune, ?_⟩
    rw [clean_concat]
    rcases hfailure : later.failure with - | calls
    · exact ⟨fun _ => hleft.not_stale hoptions hlater hfailure hprune,
        fun htwo => hleft.settled hoptions hlater hfailure
          (hstale (Nat.le_of_succ_le_succ htwo)) hprune⟩
    · exact ⟨fun hone version hversion => hstale hone version (mem_of_prune hprune hversion),
        fun htwo version hversion => hsettled htwo version (mem_of_prune hprune hversion)⟩

/-- A run of the script ends, and so do any number of them. -/
theorem exists_run_prune (laters : List Circumstances) (i : Inventory) :
    ∃ i', run r.prune i laters = some i' := by
  induction laters generalizing i with
  | nil => exact ⟨i, rfl⟩
  | cons later laters ih =>
    obtain ⟨protectedTxt, hprotected⟩ := (r.under later i).exists_protectedDigests
    have hids : (r.under later i).deleteTsv r.rounds = some _ :=
      congrArg (Option.map _) hprotected
    rw [run_cons, Run.prune, hids, Option.map_some, Option.bind_some]
    exact ih _

/-- **Pruning settles.** However many runs there are and wherever their calls fail, as long as their
circumstances make no difference to a version: after two runs without a failing call the next one
selects nothing, and what is left is what survives. -/
theorem prune_settles (hoptions : r.NoOptions) {laters : List Circumstances}
    (hagrees : ∀ later ∈ laters, r.Agrees later) (htwo : 2 ≤ clean laters)
    {next : Circumstances} (hnext : r.Agrees next) :
    ∃ i, run r.prune r.inventory laters = some i ∧
      (r.under next i).deleteTsv r.rounds = some [] ∧
      ∀ version, version ∈ i.versions ↔ version ∈ r.inventory.versions ∧ r.Survives version := by
  obtain ⟨i, hrun⟩ := exists_run_prune (r := r) laters r.inventory
  obtain ⟨hleft, -, hsettled⟩ := left_run hoptions hagrees hrun
  refine ⟨i, hrun, ?_, fun version => ⟨fun hversion =>
    ⟨hleft.sub version hversion, hsettled htwo version hversion⟩, fun hversion =>
    hleft.survivors version hversion.1 hversion.2⟩⟩
  obtain ⟨protectedTxt, hprotected⟩ := (r.under next i).exists_protectedDigests
  obtain ⟨ids, hids⟩ : ∃ ids, (r.under next i).deleteTsv r.rounds = some ids :=
    ⟨_, congrArg (Option.map _) hprotected⟩
  rw [hids, Option.some_inj, List.eq_nil_iff_forall_not_mem]
  intro id hid
  obtain ⟨version, hversion, rfl⟩ := exists_of_mem_deleteTsv hids hid
  exact hleft.not_selected hoptions hnext hids hversion (hsettled htwo version hversion) hid

end Run

/-! ### An old commit -/

/-- The image of an old commit, and the manifest it points at. -/
def oldImageRun : Run where
  inventory :=
    ⟨[⟨1, indexDigest, "2026-01-01T00:00:00Z", [⟨"sha-2b", by decide, by decide⟩]⟩,
      ⟨2, childDigest, "2026-01-01T00:00:00Z", []⟩], by decide⟩
  graph := lostIndexRun.graph
  inspectFails _ := false
  released := []
  headSha := "5e"
  cutoff := "2026-04-01T00:00:00Z"
  ageCutoff := "2026-03-02T00:00:00Z"
  grepOptions _ _ := (false, 0)

/-- A week later, on another commit, with every `imagetools inspect` failing. -/
def weekLater (failure : Option ℕ) : Circumstances where
  inspectFails _ := true
  released := []
  headSha := "7d"
  cutoff := "2026-04-08T00:00:00Z"
  ageCutoff := "2026-03-09T00:00:00Z"
  grepOptions _ _ := (false, 0)
  failure := failure

/-- Nothing lasts here, and nothing is young. -/
theorem agrees_weekLater (failure : Option ℕ) : oldImageRun.Agrees (weekLater failure) where
  stale version hversion := by
    change (oldImageRun.under (weekLater none) oldImageRun.inventory).Stale version ↔ _
    rcases List.mem_cons.mp hversion with rfl | hversion
    · decide +kernel
    · rw [List.mem_singleton.mp hversion]
      decide +kernel
  young version hversion := by
    change (weekLater none).cutoff < version.createdAt ↔ _
    rcases List.mem_cons.mp hversion with rfl | hversion
    · decide +kernel
    · rw [List.mem_singleton.mp hversion]
      decide +kernel
  leads version _ _ := by
    have hlasting : oldImageRun.lasting = [] := by decide +kernel
    rw [hlasting]
    simp [Frontier.Graph.Reachable]

/-- The main result, with a run between the two whose first call fails. -/
theorem prune_settles_oldImageRun :
    ∃ i, run oldImageRun.prune oldImageRun.inventory
        [weekLater none, weekLater (some 0), weekLater none] = some i ∧
      (oldImageRun.under (weekLater none) i).deleteTsv oldImageRun.rounds = some [] ∧
      ∀ version, version ∈ i.versions ↔
        version ∈ oldImageRun.inventory.versions ∧ oldImageRun.Survives version := by
  have hoptions : oldImageRun.NoOptions := by
    intro version hversion hsha
    rcases List.mem_cons.mp hversion with rfl | hversion
    · decide +kernel
    · rw [List.mem_singleton.mp hversion] at hsha
      exact absurd rfl hsha.1
  refine Run.prune_settles hoptions (fun later hlater => ?_) (by decide) (agrees_weekLater none)
  simp only [List.mem_cons, List.not_mem_nil, or_false] at hlater
  rcases hlater with rfl | rfl | rfl <;> exact agrees_weekLater _

end Jmap2Telegram.Prune
