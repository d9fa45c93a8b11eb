import Jmap2Telegram.ForStd.Shell
import Jmap2Telegram.Search.Frontier

/-!
# Pruning the versions of the container package

`prune-package-versions.sh` lists the versions of the package, protects the digests a tagged version
leads to, and writes to `delete.tsv` the versions that its two rules select: untagged manifests no
tag leads to, and images whose only tags are those of old commits. A run is given what it meets
outside the script: the package, the manifests, the calls that fail, the released commits and the
times.

The files of the script are lists of their lines, and a line is the record of its fields. None of
the fields is empty but that of the tags, so the tests for blank lines select nothing and are left
out.
-/

namespace Jmap2Telegram.Prune

open Shell

/-! ### The package -/

/-- A manifest digest: the algorithm, a colon and hexadecimal digits. -/
structure Digest where
  text : String
  ne_empty : text ≠ ""
  plain : ∀ c ∈ text.toList, c.isAlphanum = true ∨ c = ':'
deriving DecidableEq

/-- A tag of an image. -/
structure Tag where
  text : String
  ne_empty : text ≠ ""
  plain : ∀ c ∈ text.toList, c.isAlphanum = true ∨ c = '_' ∨ c = '.' ∨ c = '-'

/-- The name of a commit, in hexadecimal digits. -/
structure Commit where
  text : String
  plain : ∀ c ∈ text.toList, c.isAlphanum = true
deriving DecidableEq

/-- A version of the package, as the API describes it. -/
structure Version where
  id : ℕ
  name : Digest
  createdAt : String
  tags : List Tag

/-- The versions of the package: an id is of one version. -/
structure Inventory where
  versions : List Version
  nodup : (versions.map Version.id).Nodup

/-- A line of `versions.tsv`. -/
structure VersionLine where
  id : ℕ
  digest : Digest
  created : String
  tags : String

/-- A line of `commits.tsv`. -/
structure CommitLine where
  created : String
  id : ℕ
  tag : String

def CommitLine.text (line : CommitLine) : String :=
  line.created ++ "\t" ++ toString line.id ++ "\t" ++ line.tag

/-- `.metadata.container.tags | join(" ")`. -/
def Version.field (version : Version) : String := " ".intercalate (version.tags.map Tag.text)

def Version.line (version : Version) : VersionLine :=
  ⟨version.id, version.name, version.createdAt, version.field⟩

/-- What a run meets outside the script. -/
structure Run where
  /-- What `list_versions` finds, both times. -/
  inventory : Inventory
  /-- The manifests: an index points at its children. -/
  graph : Frontier.Graph Digest
  /-- The digests whose `imagetools inspect` fails. -/
  inspectFails : Digest → Bool
  /-- The commits of the repository's tags. -/
  released : List Commit
  headSha : String
  /-- An hour ago. -/
  cutoff : String
  /-- `MAX_AGE_DAYS` ago. -/
  ageCutoff : String
  /-- What `grep` does with a first argument it takes for options, within a loop over the rest of
  these lines: whether it succeeds, and how many of the lines it reads from its input. -/
  grepOptions : String → List CommitLine → Bool × ℕ

namespace Run

variable (r : Run)

/-- `list_versions`. -/
def listVersions : List VersionLine := r.inventory.versions.map Version.line

/-! ### Protected digests -/

/-- `protected.txt` and `next.txt`. -/
structure Files where
  protectedTxt : List Digest
  nextTxt : List Digest

/-- `children.txt`: a call that fails leaves it empty. -/
def childrenTxt (digest : Digest) : List Digest :=
  if r.inspectFails digest then [] else r.graph.children digest

/-- The body of the loop over `children.txt`. -/
def Files.addChild (files : Files) (child : Digest) : Files :=
  if grepX child.text (files.protectedTxt.map Digest.text) then files
  else ⟨files.protectedTxt ++ [child], files.nextTxt ++ [child]⟩

/-- The loop over `frontier.txt`, with `next.txt` empty before it. -/
def readFrontier (protectedTxt frontierTxt : List Digest) : Files :=
  frontierTxt.foldl (fun files digest => (r.childrenTxt digest).foldl Files.addChild files)
    ⟨protectedTxt, []⟩

/-- The loop while `frontier.txt` is not empty, of at most so many rounds: `protected.txt` after
it. -/
def walk : ℕ → List Digest → List Digest → Option (List Digest)
  | _, protectedTxt, [] => some protectedTxt
  | 0, _, _ :: _ => none
  | fuel + 1, protectedTxt, digest :: frontierTxt =>
    let files := r.readFrontier protectedTxt (digest :: frontierTxt)
    walk fuel files.protectedTxt files.nextTxt

/-- The digests of the tagged versions. -/
def taggedTxt : List Digest :=
  sortUnique Digest.text
    ((r.listVersions.filter fun line => line.tags ≠ "").map VersionLine.digest)

/-- `protected.txt` after the walk from the tagged versions. -/
def protectedDigests (fuel : ℕ) : Option (List Digest) := r.walk fuel r.taggedTxt r.taggedTxt

/-! ### Rule 1: unreferenced untagged manifests -/

/-- What rule 1 selects. -/
def orphans (protectedTxt : List Digest) : List ℕ :=
  r.listVersions.filterMap fun line =>
    if line.tags ≠ "" then none
    else if grepX line.digest.text (protectedTxt.map Digest.text) then none
    else if r.cutoff < line.created then none
    else some line.id

/-! ### Rule 2: stale per-commit tags -/

/-- `commits.tsv`: the versions all of whose tags are `sha-*`, the newest first. -/
def commitsTsv : List CommitLine :=
  sortReverse CommitLine.text <| r.listVersions.filterMap fun line =>
    if line.tags = "" then none
    else if (words line.tags).any fun tag => !startsWith "sha-" tag then none
    else some ⟨line.created, line.id, line.tags⟩

/-- `released.txt`. -/
def releasedTxt : List String := (sortUnique Commit.text r.released).map Commit.text

/-- `grep -qx "$pattern" released.txt`, and what it leaves of the input of the loop it stands in. An
argument that begins with `-` is not a pattern to `grep` but options, and then it may take its
patterns from elsewhere and read the input of the loop. -/
def grepReleased (pattern : String) (stdin : List CommitLine) : Bool × List CommitLine :=
  if startsWith "-" pattern then
    ((r.grepOptions pattern stdin).1, stdin.drop (r.grepOptions pattern stdin).2)
  else (grepX pattern r.releasedTxt, stdin)

theorem length_grepReleased_le (pattern : String) (stdin : List CommitLine) :
    (r.grepReleased pattern stdin).2.length ≤ stdin.length := by
  unfold grepReleased
  split <;> simp

/-- What rule 2 selects, in a loop over `commits.tsv`. -/
def staleTags : List CommitLine → List ℕ
  | [] => []
  | line :: stdin =>
    if !startsWith "sha-" line.tag then staleTags stdin
    else
      let commit := dropPrefix "sha-" line.tag
      let grep := r.grepReleased commit stdin
      if grep.1 then staleTags grep.2
      else if r.headSha ≠ "" ∧ commit = r.headSha then staleTags grep.2
      else if r.ageCutoff < line.created then staleTags grep.2
      else line.id :: staleTags grep.2
termination_by lines => lines.length
decreasing_by
  · exact Nat.lt_succ_self _
  all_goals exact Nat.lt_succ_of_le (r.length_grepReleased_le _ _)

/-- `delete.tsv`, if the walk ends within so many rounds. -/
def deleteTsv (fuel : ℕ) : Option (List ℕ) :=
  (r.protectedDigests fuel).map fun protectedTxt =>
    r.orphans protectedTxt ++ r.staleTags r.commitsTsv

end Run

end Jmap2Telegram.Prune
