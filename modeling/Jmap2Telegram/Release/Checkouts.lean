import Jmap2Telegram.ForStd.Sections
import Mathlib.Data.List.Infix
import Mathlib.Data.String.Basic

/-!
# Scripts need a checkout

`check-workflow-checkouts.sh`, which CI runs on the workflows of the repository: its `awk` program
reads a workflow line by line and reports each job that runs a script of the repository and never
checks the tree out.

* `scan`: the `awk` program.
* `check_iff`: it passes exactly the workflows without such a job.
-/

namespace Jmap2Telegram.Checkouts

open Text

/-! ### Lines -/

/-- `/^jobs:[ ]*$/`. -/
def isJobsKey (line : String) : Bool :=
  "jobs:".toList.isPrefixOf line.toList && (line.toList.drop 5).all fun c => c == ' '

/-- `[A-Za-z0-9_-]`. -/
def isNameChar (c : Char) : Bool := c.isAlphanum || c == '_' || c == '-'

/-- `/^  [A-Za-z0-9_-]+:[ ]*$/`. -/
def isJobHeader (line : String) : Bool :=
  match line.toList with
  | ' ' :: ' ' :: rest =>
    !(rest.takeWhile isNameChar).isEmpty &&
      match rest.dropWhile isNameChar with
      | ':' :: blanks => blanks.all fun c => c == ' '
      | _ => false
  | _ => false

/-- `/^  [^ ]/`. -/
def isShallow (line : String) : Bool :=
  match line.toList with
  | ' ' :: ' ' :: c :: _ => c != ' '
  | _ => false

/-- `/\.github\/scripts\//`. -/
def usesScript (line : String) : Bool := decide (".github/scripts/".toList <:+: line.toList)

/-- `/actions\/checkout@/`. -/
def checksOut (line : String) : Bool := decide ("actions/checkout@".toList <:+: line.toList)

/-- `$1`, without a colon at its end. -/
def jobName (line : String) : String :=
  let first := (line.toList.dropWhile fun c => c == ' ' || c == '\t').takeWhile fun c =>
    !(c == ' ' || c == '\t')
  String.ofList (if first.getLast? = some ':' then first.dropLast else first)

/-! ### The program -/

/-- The variables of the program, and what it printed. -/
structure Scan where
  inJobs : Bool
  job : String
  usesScript : Bool
  hasCheckout : Bool
  bad : Bool
  printed : List String

/-- What the program starts with. -/
def Scan.initial : Scan := ⟨false, "", false, false, false, []⟩

/-- What is printed about a job. -/
def report (file job : String) : String :=
  "::error::" ++ file ++ ": the job " ++ job ++ " runs a repository script but never checks the " ++
    "tree out - it would fail on a missing file before it reached the script.\n"

section

variable (file : String)

/-- `flush`. -/
def flush (s : Scan) : Scan :=
  if s.job ≠ "" ∧ s.usesScript ∧ ¬s.hasCheckout then
    { s with printed := s.printed ++ [report file s.job], bad := true }
  else s

/-- The rules of the program, on one line. -/
def scanLine (s : Scan) (line : String) : Scan :=
  if isJobsKey line then { s with inJobs := true }
  else if !s.inJobs then s
  else if isJobHeader line then
    { flush file s with job := jobName line, usesScript := false, hasCheckout := false }
  else if isShallow line then { flush file s with job := "" }
  else if s.job = "" then s
  else
    { s with
      usesScript := s.usesScript || usesScript line
      hasCheckout := s.hasCheckout || checksOut line }

/-- The program on a workflow. -/
def scan (lines : List String) : Scan := flush file (lines.foldl (scanLine file) .initial)

end

/-- The script on the workflows there are, each with its name: whether it exits with success. -/
def check (workflows : List (String × List String)) : Bool :=
  workflows.all fun workflow => !(scan workflow.1 workflow.2).bad

/-! ### What a line is -/

/-- A header begins with two spaces and the name of the job. -/
theorem exists_of_isJobHeader {line : String} (h : isJobHeader line = true) :
    ∃ c rest, line.toList = ' ' :: ' ' :: c :: rest ∧ isNameChar c = true := by
  rw [isJobHeader] at h
  split at h
  case h_2 => cases h
  case h_1 rest hline =>
    cases rest with
    | nil => cases h
    | cons c rest =>
      refine ⟨c, rest, hline, ?_⟩
      by_contra hnot
      rw [List.takeWhile_cons_of_neg hnot] at h
      cases h

/-- A header ends the job before it. -/
theorem isShallow_of_isJobHeader {line : String} (h : isJobHeader line = true) :
    isShallow line = true := by
  obtain ⟨c, rest, hline, hname⟩ := exists_of_isJobHeader h
  have hne : c ≠ ' ' := by
    rintro rfl
    cases hname
  rw [isShallow, hline]
  exact bne_iff_ne.mpr hne

/-- A job has a name, so that the program knows it is in one. -/
theorem jobName_ne_empty {line : String} (h : isJobHeader line = true) : jobName line ≠ "" := by
  obtain ⟨c, rest, hline, hname⟩ := exists_of_isJobHeader h
  have hblank : (c == ' ' || c == '\t') = false := by
    rw [Bool.or_eq_false_iff, beq_eq_false_iff_ne, beq_eq_false_iff_ne]
    refine ⟨?_, ?_⟩ <;> rintro rfl <;> cases hname
  have hcolon : c ≠ ':' := by
    rintro rfl
    cases hname
  have hfirst : (line.toList.dropWhile fun c => c == ' ' || c == '\t').takeWhile
      (fun c => !(c == ' ' || c == '\t')) =
        c :: rest.takeWhile fun c => !(c == ' ' || c == '\t') := by
    rw [hline, List.dropWhile_cons_of_pos rfl, List.dropWhile_cons_of_pos rfl,
      List.dropWhile_cons_of_neg (by rw [hblank]; exact Bool.false_ne_true),
      List.takeWhile_cons_of_pos (by rw [hblank]; rfl)]
  rw [jobName, hfirst]
  intro hempty
  have hnil := congrArg String.toList hempty
  rw [String.toList_ofList] at hnil
  cases hrest : rest.takeWhile fun c => !(c == ' ' || c == '\t') with
  | nil =>
    rw [hrest, if_neg (by simpa using hcolon)] at hnil
    cases hnil
  | cons d ds =>
    rw [hrest] at hnil
    split_ifs at hnil
    · cases hnil
    · cases hnil

/-- The line `jobs:` has only these characters. -/
theorem mem_of_isJobsKey {line : String} (h : isJobsKey line = true) {c : Char}
    (hc : c ∈ line.toList) : c ∈ "jobs: ".toList := by
  rw [isJobsKey, Bool.and_eq_true, List.isPrefixOf_iff_prefix] at h
  obtain ⟨⟨rest, hrest⟩, hblanks⟩ := h
  rw [← hrest, List.mem_append] at hc
  rw [← hrest] at hblanks
  rcases hc with hc | hc
  · revert c
    decide
  · have hblank := List.all_eq_true.mp hblanks c hc
    rw [beq_iff_eq.mp hblank]
    decide

/-- The line `jobs:` ends no job. -/
theorem isShallow_of_isJobsKey {line : String} (h : isJobsKey line = true) :
    isShallow line = false := by
  rw [isShallow]
  rw [isJobsKey, Bool.and_eq_true, List.isPrefixOf_iff_prefix] at h
  obtain ⟨⟨rest, hrest⟩, -⟩ := h
  rw [← hrest]
  rfl

theorem usesScript_of_isJobsKey {line : String} (h : isJobsKey line = true) :
    usesScript line = false := by
  refine decide_eq_false fun hfound => ?_
  have hdot : '.' ∈ ".github/scripts/".toList := by decide +kernel
  have hnot : '.' ∉ "jobs: ".toList := by decide
  exact hnot (mem_of_isJobsKey h (hfound.subset hdot))

theorem checksOut_of_isJobsKey {line : String} (h : isJobsKey line = true) :
    checksOut line = false := by
  refine decide_eq_false fun hfound => ?_
  have hat : '@' ∈ "actions/checkout@".toList := by decide +kernel
  have hnot : '@' ∉ "jobs: ".toList := by decide
  exact hnot (mem_of_isJobsKey h (hfound.subset hat))

/-! ### What is printed -/

/-- What is printed about a job with these lines. -/
def reported (file job : String) (body : List String) : List String :=
  if body.any usesScript && !body.any checksOut then [report file job] else []

/-- What is printed about the job the program is in, if these are its lines to come. -/
def pending (file : String) (s : Scan) (body : List String) : List String :=
  if s.job != "" && ((s.usesScript || body.any usesScript) &&
      !(s.hasCheckout || body.any checksOut)) then [report file s.job]
  else []

section

variable {file : String} {s : Scan} {lines : List String}

/-- At the end of a job, what there is about it is printed. -/
theorem printed_flush : (flush file s).printed = s.printed ++ pending file s [] := by
  have hpending : (s.job != "" && ((s.usesScript || [].any usesScript) &&
      !(s.hasCheckout || [].any checksOut))) = true ↔
        s.job ≠ "" ∧ s.usesScript = true ∧ ¬s.hasCheckout = true := by
    simp
  rw [flush, pending]
  by_cases h : s.job ≠ "" ∧ s.usesScript = true ∧ ¬s.hasCheckout = true
  · rw [if_pos h, if_pos (hpending.mpr h)]
  · rw [if_neg h, if_neg (mt hpending.mp h), List.append_nil]

theorem inJobs_flush : (flush file s).inJobs = s.inJobs := by
  rw [flush]
  split_ifs <;> rfl

/-- **The program in the jobs of a workflow** prints what there is about the job it is in and about
each job to come. -/
theorem printed_foldl (hs : s.inJobs = true) :
    (flush file (lines.foldl (scanLine file) s)).printed =
      s.printed ++ pending file s (lines.takeWhile fun line => !isShallow line) ++
        (sections isJobHeader isShallow lines).flatMap fun job =>
          reported file (jobName job.1) job.2 := by
  induction lines generalizing s with
  | nil => simp [sections, printed_flush]
  | cons line lines ih =>
    rw [List.foldl_cons]
    by_cases hkey : isJobsKey line = true
    · -- the line says nothing of the job
      have hshallow := isShallow_of_isJobsKey hkey
      have hheader : isJobHeader line = false :=
        Bool.eq_false_iff.mpr fun h => Bool.false_ne_true
          (hshallow.symm.trans (isShallow_of_isJobHeader h))
      have hline : scanLine file s line = s := by
        rw [scanLine, if_pos hkey, ← hs]
      rw [hline, ih hs, sections_cons_of_not_starts hheader,
        List.takeWhile_cons_of_pos (by rw [hshallow]; rfl)]
      simp only [pending, List.any_cons, usesScript_of_isJobsKey hkey, checksOut_of_isJobsKey hkey,
        Bool.false_or]
    · obtain ⟨flushed, hflushed⟩ : ∃ flushed, flush file s = flushed := ⟨_, rfl⟩
      have hinJobs : flushed.inJobs = true := hflushed ▸ inJobs_flush.trans hs
      have hprinted : flushed.printed = s.printed ++ pending file s [] := hflushed ▸ printed_flush
      by_cases hheader : isJobHeader line = true
      · -- the job ends, and another starts
        have hshallow := isShallow_of_isJobHeader hheader
        have hline : scanLine file s line =
            { flushed with job := jobName line, usesScript := false, hasCheckout := false } := by
          rw [scanLine, if_neg hkey, if_neg (by simp [hs]), if_pos hheader, hflushed]
        have hrest := ih (s := { flushed with
          job := jobName line, usesScript := false, hasCheckout := false }) hinJobs
        rw [hline, hrest, sections_cons_of_starts hheader,
          List.takeWhile_cons_of_neg (by simp [hshallow]), List.flatMap_cons, hprinted]
        simp [pending, reported, jobName_ne_empty hheader]
      · by_cases hshallow : isShallow line = true
        · -- the job ends
          have hline : scanLine file s line = { flushed with job := "" } := by
            rw [scanLine, if_neg hkey, if_neg (by simp [hs]), if_neg hheader, if_pos hshallow,
              hflushed]
          have hrest := ih (s := { flushed with job := "" }) hinJobs
          rw [hline, hrest, sections_cons_of_not_starts (Bool.eq_false_iff.mpr hheader),
            List.takeWhile_cons_of_neg (by simp [hshallow]), hprinted]
          simp [pending]
        · -- a line of the job, if the program is in one
          rw [sections_cons_of_not_starts (Bool.eq_false_iff.mpr hheader),
            List.takeWhile_cons_of_pos (by simp [hshallow])]
          by_cases hjob : s.job = ""
          · have hline : scanLine file s line = s := by
              rw [scanLine, if_neg hkey, if_neg (by simp [hs]), if_neg hheader, if_neg hshallow,
                if_pos hjob]
            rw [hline, ih hs]
            simp [pending, hjob]
          · have hline : scanLine file s line =
                { s with
                  usesScript := s.usesScript || usesScript line
                  hasCheckout := s.hasCheckout || checksOut line } := by
              rw [scanLine, if_neg hkey, if_neg (by simp [hs]), if_neg hheader, if_neg hshallow,
                if_neg hjob]
            have hrest := ih (s := { s with
              usesScript := s.usesScript || usesScript line
              hasCheckout := s.hasCheckout || checksOut line }) hs
            rw [hline, hrest]
            dsimp only [pending]
            rw [List.any_cons, List.any_cons, Bool.or_assoc, Bool.or_assoc]

end

/-! ### The jobs of a workflow -/

/-- A job of a workflow: a header after the line `jobs:`, and the lines up to the next one that is
indented by two spaces only. -/
def IsJob (lines : List String) (header : String) (body : List String) : Prop :=
  ∃ before rest, lines = before ++ header :: (body ++ rest) ∧
    (∃ line ∈ before, isJobsKey line = true) ∧ isJobHeader header = true ∧
    (∀ line ∈ body, isShallow line = false) ∧ ∀ line ∈ rest.head?, isShallow line = true

/-- The job runs a script of the repository and never checks the tree out. -/
def LacksCheckout (body : List String) : Prop :=
  (∃ line ∈ body, usesScript line = true) ∧ ∀ line ∈ body, checksOut line = false

section

variable {file : String} {s : Scan} {lines : List String}

/-- Before the line `jobs:` the program does nothing. -/
theorem foldl_initial : (flush file (lines.foldl (scanLine file) .initial)).printed =
    (sections isJobHeader isShallow (lines.dropWhile fun line => !isJobsKey line).tail).flatMap
      fun job => reported file (jobName job.1) job.2 := by
  induction lines with
  | nil => rfl
  | cons line lines ih =>
    rw [List.foldl_cons]
    by_cases hkey : isJobsKey line = true
    · have hline : scanLine file .initial line = { Scan.initial with inJobs := true } := by
        rw [scanLine, if_pos hkey]
      rw [hline, printed_foldl rfl, List.dropWhile_cons_of_neg (by simp [hkey]), List.tail_cons]
      rfl
    · have hline : scanLine file .initial line = .initial := by
        rw [scanLine, if_neg hkey]
        rfl
      rw [hline, ih, List.dropWhile_cons_of_pos (by simp [hkey])]

/-- What is printed is about jobs without a checkout, and about all of them. -/
theorem mem_printed_iff {text : String} : text ∈ (scan file lines).printed ↔
    ∃ header body, IsJob lines header body ∧ LacksCheckout body ∧
      text = report file (jobName header) := by
  rw [scan, foldl_initial, List.mem_flatMap]
  constructor
  · rintro ⟨⟨header, body⟩, hjob, htext⟩
    rw [reported] at htext
    split_ifs at htext with hlacks
    · rw [Bool.and_eq_true, Bool.not_eq_true', List.any_eq_true, List.any_eq_false] at hlacks
      exact ⟨header, body, mem_sections_after.mp hjob,
        ⟨hlacks.1, fun line hline => Bool.eq_false_iff.mpr (hlacks.2 line hline)⟩,
        List.mem_singleton.mp htext⟩
    · cases htext
  · rintro ⟨header, body, hjob, hlacks, rfl⟩
    refine ⟨(header, body), mem_sections_after.mpr hjob, ?_⟩
    have hreported : (body.any usesScript && !body.any checksOut) = true := by
      rw [Bool.and_eq_true, Bool.not_eq_true', List.any_eq_true, List.any_eq_false]
      exact ⟨hlacks.1, fun line hline => Bool.eq_false_iff.mp (hlacks.2 line hline)⟩
    rw [reported, if_pos hreported]
    exact List.mem_singleton_self _

theorem bad_flush (h : s.bad = !s.printed.isEmpty) :
    (flush file s).bad = !(flush file s).printed.isEmpty := by
  rw [flush]
  split_ifs
  · simp
  · exact h

/-- The program fails if it printed something. -/
theorem bad_scan : (scan file lines).bad = !(scan file lines).printed.isEmpty := by
  refine bad_flush (List.foldlRecOn (motive := fun s : Scan => s.bad = !s.printed.isEmpty) _ _ rfl
    fun s h line _ => ?_)
  have hflush : (flush file s).bad = !(flush file s).printed.isEmpty := bad_flush h
  rw [scanLine]
  split_ifs
  · exact h
  · exact h
  · exact hflush
  · exact hflush
  · exact h
  · exact h

end

/-- **Every job that runs a script checks the tree out**: the script succeeds exactly on workflows
in which this is so, and otherwise it names each job in which it is not. -/
theorem check_iff (workflows : List (String × List String)) :
    (check workflows = true ↔ ∀ workflow ∈ workflows, ∀ header body,
        IsJob workflow.2 header body → ¬LacksCheckout body) ∧
      ∀ workflow ∈ workflows, ∀ text, text ∈ (scan workflow.1 workflow.2).printed ↔
        ∃ header body, IsJob workflow.2 header body ∧ LacksCheckout body ∧
          text = report workflow.1 (jobName header) := by
  refine ⟨?_, fun workflow _ text => mem_printed_iff⟩
  rw [check, List.all_eq_true]
  refine forall_congr' fun workflow => forall_congr' fun _ => ?_
  rw [bad_scan, Bool.not_not, List.isEmpty_iff, List.eq_nil_iff_forall_not_mem]
  constructor
  · intro h header body hjob hlacks
    exact h _ (mem_printed_iff.mpr ⟨header, body, hjob, hlacks, rfl⟩)
  · intro h text htext
    obtain ⟨header, body, hjob, hlacks, -⟩ := mem_printed_iff.mp htext
    exact h header body hjob hlacks

/-- The shape of the release that failed. -/
example : check [("release.yml", ["on: push", "jobs:", "  prep:", "    steps:",
    "      - uses: actions/checkout@v4", "      - run: .github/scripts/guard.sh", "",
    "  promote:", "    steps:", "      - run: .github/scripts/guard.sh"])] = false := by
  decide +kernel

end Jmap2Telegram.Checkouts
