import Jmap2Telegram.Prune.Script

/-!
# What the orphan rule deletes

The walk from the tagged versions is a search by frontiers of the graph in which the digests whose
`imagetools inspect` fails have no children. It ends, with the digests reachable in that graph.

* `exists_protectedDigests`: the walk ends.
* `mem_protectedDigests`: what it protects.
* `mem_orphans`: what rule 1 selects.
* `orphansUnreferenced_iff`: rule 1 selects no version a tag leads to, if and only if the tags lead
  to each of its old enough ones over digests that could be inspected.
-/

namespace Jmap2Telegram.Prune

open Shell

/-! ### Texts of digests and tags -/

/-- Different digests are written differently. -/
theorem Digest.text_injective : Function.Injective Digest.text := by
  rintro ⟨text, _, _⟩ ⟨text', _, _⟩ rfl
  rfl

/-- A digest is found in a file of digests if it is one of its lines. -/
theorem grepX_digest {digest : Digest} {file : List Digest} :
    grepX digest.text (file.map Digest.text) = true ↔ digest ∈ file := by
  have hdot : '.' ∉ digest.text.toList := by
    intro h
    rcases digest.plain '.' h with h | h
    · exact absurd h (by decide)
    · exact absurd h (by decide)
  rw [grepX_iff hdot, List.mem_map_of_injective Digest.text_injective]

/-- The field of the tags is empty without tags only. -/
theorem Version.field_eq_empty {version : Version} : version.field = "" ↔ version.tags = [] := by
  constructor
  · intro h
    rcases htags : version.tags with - | ⟨tag, tags⟩
    · rfl
    · have hlist : [' '].intercalate (version.tags.map fun tag => tag.text.toList) = [] := by
        have := congrArg String.toList h
        simpa [Version.field, String.toList_intercalate, Function.comp_def] using this
      rw [htags, List.map_cons] at hlist
      have htag : tag.text.toList = [] := by
        rcases tags with - | ⟨tag', tags⟩
        · simpa using hlist
        · simp [List.intercalate_cons_cons] at hlist
      exact absurd (by simpa using htag) tag.ne_empty
  · intro h
    rw [Version.field, h]
    rfl

/-- An id is of one version. -/
theorem Inventory.eq_of_id_eq (inventory : Inventory) {version version' : Version}
    (h : version ∈ inventory.versions) (h' : version' ∈ inventory.versions)
    (hid : version.id = version'.id) : version = version' :=
  List.inj_on_of_nodup_map inventory.nodup h h' hid

namespace Run

variable {r : Run}

/-- The digests of the tagged versions. -/
def tagged (r : Run) : List Digest :=
  (r.inventory.versions.filter fun version => version.tags ≠ []).map Version.name

/-- The manifests as `imagetools inspect` shows them. -/
def inspected (r : Run) : Frontier.Graph Digest := r.graph.without r.inspectFails

theorem mem_taggedTxt {digest : Digest} : digest ∈ r.taggedTxt ↔ digest ∈ r.tagged := by
  simp [taggedTxt, mem_sortUnique, listVersions, tagged, Version.line, Version.field_eq_empty,
    and_assoc]

/-! ### The walk -/

/-- A child that is met is protected from then on. -/
theorem mem_protectedTxt_addChild {files : Files} {child digest : Digest} :
    digest ∈ (files.addChild child).protectedTxt ↔
      digest ∈ files.protectedTxt ∨ digest = child := by
  unfold Files.addChild
  split
  next h =>
    refine ⟨.inl, fun hdigest => hdigest.elim id ?_⟩
    rintro rfl
    exact grepX_digest.mp h
  next h => simp

/-- It is walked next if it was not protected before. -/
theorem mem_nextTxt_addChild {files : Files} {child digest : Digest} :
    digest ∈ (files.addChild child).nextTxt ↔
      digest ∈ files.nextTxt ∨ (digest = child ∧ digest ∉ files.protectedTxt) := by
  unfold Files.addChild
  split
  next h =>
    refine ⟨.inl, fun hdigest => hdigest.elim id ?_⟩
    rintro ⟨rfl, hnot⟩
    exact absurd (grepX_digest.mp h) hnot
  next h =>
    rw [grepX_digest] at h
    simp only [List.mem_append, List.mem_singleton]
    refine or_congr_right (iff_self_and.mpr ?_)
    rintro rfl
    exact h

/-- All children of a manifest are protected. -/
theorem mem_protectedTxt_foldl {files : Files} {children : List Digest} {digest : Digest} :
    digest ∈ (children.foldl Files.addChild files).protectedTxt ↔
      digest ∈ files.protectedTxt ∨ digest ∈ children := by
  induction children generalizing files with
  | nil => simp
  | cons child children ih =>
    rw [List.foldl_cons, ih, mem_protectedTxt_addChild, List.mem_cons, or_assoc]

/-- Those that were not are walked next. -/
theorem mem_nextTxt_foldl {files : Files} {children : List Digest} {digest : Digest} :
    digest ∈ (children.foldl Files.addChild files).nextTxt ↔
      digest ∈ files.nextTxt ∨ (digest ∈ children ∧ digest ∉ files.protectedTxt) := by
  induction children generalizing files with
  | nil => simp
  | cons child children ih =>
    rw [List.foldl_cons, ih, mem_nextTxt_addChild, mem_protectedTxt_addChild, List.mem_cons]
    -- a child met twice is new the first time only
    by_cases hchild : digest = child <;> simp [hchild]

/-- The two nested loops go through the children of the frontier. -/
theorem readFrontier_eq (protectedTxt frontierTxt : List Digest) :
    r.readFrontier protectedTxt frontierTxt =
      (frontierTxt.flatMap r.childrenTxt).foldl Files.addChild ⟨protectedTxt, []⟩ :=
  List.foldl_flatMap.symm

/-- The loop over `frontier.txt` is a round of the search. -/
theorem round_readFrontier (protectedTxt frontierTxt : List Digest) :
    Frontier.Round r.inspected protectedTxt frontierTxt
      (r.readFrontier protectedTxt frontierTxt).protectedTxt
      (r.readFrontier protectedTxt frontierTxt).nextTxt where
  mem_seen digest := by
    rw [readFrontier_eq, mem_protectedTxt_foldl, List.mem_flatMap]
    rfl
  mem_next digest := by
    rw [readFrontier_eq, mem_nextTxt_foldl, List.mem_flatMap, and_comm]
    exact or_iff_right List.not_mem_nil

/-- A walk keeps the invariant of the search to its end. -/
theorem inv_walk {roots protectedTxt frontierTxt result : List Digest} {fuel : ℕ}
    (hinv : Frontier.Inv r.inspected roots protectedTxt frontierTxt)
    (h : r.walk fuel protectedTxt frontierTxt = some result) :
    Frontier.Inv r.inspected roots result [] := by
  fun_induction Run.walk r fuel protectedTxt frontierTxt with
  | case1 => exact Option.some.inj h ▸ hinv
  | case2 => exact absurd h (by simp)
  | case3 fuel protectedTxt digest frontierTxt files ih =>
    exact ih (hinv.of_round (round_readFrontier protectedTxt (digest :: frontierTxt))) h

/-- With more rounds than there are digests not protected, a walk ends. -/
theorem exists_walk {protectedTxt frontierTxt : List Digest} {fuel : ℕ}
    (hfuel : Frontier.unseen r.inspected protectedTxt < fuel) :
    ∃ result, r.walk fuel protectedTxt frontierTxt = some result := by
  induction fuel generalizing protectedTxt frontierTxt with
  | zero => exact absurd hfuel (Nat.not_lt_zero _)
  | succ fuel ih =>
    rcases frontierTxt with - | ⟨digest, frontierTxt⟩
    · exact ⟨protectedTxt, by rw [walk]⟩
    · have hround := round_readFrontier (r := r) protectedTxt (digest :: frontierTxt)
      rw [walk]
      rcases hnext : (r.readFrontier protectedTxt (digest :: frontierTxt)).nextTxt with - | ⟨d, ds⟩
      · exact ⟨_, by rw [walk]⟩
      · have hless := hround.unseen_lt (by rw [hnext]; exact List.cons_ne_nil d ds)
        exact ih (by omega)

/-- The walk ends, after at most one round for each digest that is pointed at and one more. -/
theorem exists_protectedDigests (r : Run) :
    ∃ protectedTxt, r.protectedDigests (r.graph.nodes.length + 1) = some protectedTxt :=
  exists_walk (Nat.lt_succ_of_le (Frontier.unseen_le r.inspected _))

/-- What is protected is what the tagged versions lead to over digests that can be inspected. -/
theorem mem_protectedDigests {fuel : ℕ} {protectedTxt : List Digest}
    (h : r.protectedDigests fuel = some protectedTxt) (digest : Digest) :
    digest ∈ protectedTxt ↔ r.inspected.Reachable r.tagged digest := by
  rw [(inv_walk Frontier.Inv.init h).mem_iff, Frontier.Graph.Reachable, Frontier.Graph.Reachable]
  simp only [mem_taggedTxt]

/-! ### Rule 1 -/

/-- Rule 1 selects the versions without a tag that are not protected and not of the last hour. -/
theorem mem_orphans {protectedTxt : List Digest} {id : ℕ} :
    id ∈ r.orphans protectedTxt ↔ ∃ version ∈ r.inventory.versions, version.id = id ∧
      version.tags = [] ∧ version.name ∉ protectedTxt ∧ ¬r.cutoff < version.createdAt := by
  simp only [orphans, listVersions, List.mem_filterMap, List.mem_map, exists_exists_and_eq_and,
    Version.line, grepX_digest, ne_eq, Version.field_eq_empty]
  refine exists_congr fun version => and_congr_right fun _ => ?_
  by_cases htags : version.tags = [] <;> by_cases hname : version.name ∈ protectedTxt <;>
    by_cases htime : r.cutoff < version.createdAt <;> simp [htags, hname, htime]


/-- The walk ends, and rule 1 selects no version that a tagged version leads to. -/
def OrphansUnreferenced (r : Run) : Prop :=
  (∃ fuel protectedTxt, r.protectedDigests fuel = some protectedTxt) ∧
    ∀ fuel protectedTxt, r.protectedDigests fuel = some protectedTxt →
      ∀ version ∈ r.inventory.versions, version.id ∈ r.orphans protectedTxt →
        ¬r.graph.Reachable r.tagged version.name

/-- **Main result.** Rule 1 spares what the tagged versions lead to, if and only if they lead to it
over digests that can be inspected: to what has no tag and is not of the last hour. -/
theorem orphansUnreferenced_iff (r : Run) :
    r.OrphansUnreferenced ↔ ∀ version ∈ r.inventory.versions, version.tags = [] →
      ¬r.cutoff < version.createdAt → r.graph.Reachable r.tagged version.name →
        r.inspected.Reachable r.tagged version.name := by
  rw [OrphansUnreferenced, and_iff_right ⟨_, exists_protectedDigests r⟩]
  constructor
  · intro h version hversion htags htime hreach
    obtain ⟨protectedTxt, hprotected⟩ := exists_protectedDigests r
    rw [← mem_protectedDigests hprotected]
    by_contra hnot
    have horphan := mem_orphans.mpr ⟨version, hversion, rfl, htags, hnot, htime⟩
    exact h _ protectedTxt hprotected version hversion horphan hreach
  · intro h fuel protectedTxt hprotected version hversion horphan hreach
    obtain ⟨version', hversion', hid, htags, hnot, htime⟩ := mem_orphans.mp horphan
    obtain rfl := r.inventory.eq_of_id_eq hversion' hversion hid
    exact hnot ((mem_protectedDigests hprotected _).mpr (h version' hversion htags htime hreach))

end Run

/-! ### An index that cannot be inspected -/

def indexDigest : Digest := ⟨"sha256:1a", by decide, by decide⟩

def childDigest : Digest := ⟨"sha256:2b", by decide, by decide⟩

/-- A tagged index, whose inspection fails, and the child it points at. -/
def lostIndexRun : Run where
  inventory :=
    ⟨[⟨1, indexDigest, "2026-01-01T00:00:00Z", [⟨"latest", by decide, by decide⟩]⟩,
      ⟨2, childDigest, "2026-01-01T00:00:00Z", []⟩], by decide⟩
  graph :=
    ⟨[childDigest], fun digest => if digest = indexDigest then [childDigest] else [],
      fun a b hb => by split at hb <;> simp_all⟩
  inspectFails digest := digest = indexDigest
  released := []
  headSha := ""
  cutoff := "2026-02-01T00:00:00Z"
  ageCutoff := "2026-01-02T00:00:00Z"
  grepOptions _ _ := (false, 0)

/-- Rule 1 selects the child of the index. -/
theorem not_orphansUnreferenced_lostIndexRun : ¬lostIndexRun.OrphansUnreferenced := by
  rintro ⟨⟨fuel, protectedTxt, hprotected⟩, h⟩
  have htagged : lostIndexRun.tagged = [indexDigest] := rfl
  have hlost : childDigest ∉ protectedTxt := by
    rw [Run.mem_protectedDigests hprotected]
    intro hreach
    have hindex : childDigest = indexDigest := by
      refine hreach.induction (p := (· = indexDigest)) (by simp [htagged]) ?_
      rintro a b rfl hab
      have hnone : lostIndexRun.inspected.children indexDigest = [] := rfl
      rw [Frontier.Graph.Child, hnone] at hab
      exact absurd hab List.not_mem_nil
    exact absurd hindex (by decide)
  refine h fuel protectedTxt hprotected ⟨2, childDigest, "2026-01-01T00:00:00Z", []⟩
    (by simp [lostIndexRun]) ?_ ?_
  · exact Run.mem_orphans.mpr ⟨_, by simp [lostIndexRun], rfl, rfl, hlost, by decide +kernel⟩
  · refine Frontier.Graph.Reachable.child (a := indexDigest)
      (Frontier.Graph.reachable_of_mem (by simp [htagged])) ?_
    simp [Frontier.Graph.Child, lostIndexRun]

end Jmap2Telegram.Prune
