import Mathlib.Data.List.Nodup
import Mathlib.Data.List.TakeDrop
import Mathlib.Tactic.Common

/-!
# The text format of metrics

A page is a sequence of lines, each ended by a line feed: `# HELP` and `# TYPE` lines, samples with
their labels, other comments and blank lines. `Line.print` writes a line the way exporters do;
`readLine` reads one by the rules of the format: blanks and tabs separate tokens, a label value ends
at the first quote that no backslash precedes, and `\\`, `\"` and `\n` stand for the characters they
escape. Values are read in decimal notation or as `+Inf`; signs, exponents and time stamps are left
out.

* `readLabelValue_escape`: a label value reads back as it was, whatever follows its quote.
* `readLine_print`, `readPage_print`: what is printed reads back.
* `Family`: a metric with its header and its samples, and what a page of families has of each name.
-/

namespace Prometheus

/-! ### Names, texts and values -/

/-- The characters of a name; a digit may not come first. -/
def isNameChar (c : Char) : Bool := c.isAlphanum || c == '_' || c == ':'

/-- A name: not empty, of these characters, and not starting with a digit. -/
def isName (cs : List Char) : Bool :=
  cs.all isNameChar && !cs.isEmpty && !(cs.head?.any Char.isDigit)

/-- The name of a metric or of a label. -/
structure Name where
  text : String
  valid : isName text.toList = true
  deriving DecidableEq

/-- Names in the order of their texts. -/
instance : Ord Name := ⟨compareOn Name.text⟩

instance : Std.TransOrd Name := inferInstanceAs (Std.TransCmp (compareOn Name.text))

instance : Std.LawfulEqOrd Name where
  eq_of_compare {a b} h := by
    have htext : a.text = b.text := Std.LawfulEqOrd.eq_of_compare h
    cases a
    cases b
    cases htext
    rfl

/-- The separators of tokens. -/
def isBlank (c : Char) : Bool := c == ' ' || c == '\t'

/-- A help text; the blanks before it are not part of it. -/
structure Help where
  text : String
  start : text.toList.head?.any isBlank = false
  deriving DecidableEq

/-- The type of a metric. -/
inductive Kind where
  | counter
  | gauge
  | histogram
  | summary
  | untyped
  deriving DecidableEq

/-- A number in decimal notation. -/
structure Decimal where
  whole : ℕ
  fraction : List (Fin 10)
  deriving DecidableEq

/-- The value of a sample. -/
inductive Value where
  | posInf
  | decimal (d : Decimal)
  deriving DecidableEq

/-- A whole number. -/
def Value.ofNat (n : ℕ) : Value := .decimal ⟨n, []⟩

/-- A sample of a metric. -/
structure Sample where
  name : Name
  labels : List (Name × String)
  value : Value
  deriving DecidableEq

/-- A line that says something. -/
inductive Line where
  | help (name : Name) (help : Help)
  | type (name : Name) (kind : Kind)
  | sample (sample : Sample)
  deriving DecidableEq

/-! ### Printing -/

/-- A character of a label value. -/
def escapeChar (c : Char) : List Char :=
  if c = '\\' then ['\\', '\\'] else if c = '"' then ['\\', '"'] else if c = '\n' then ['\\', 'n']
  else [c]

/-- The characters of a label value between its quotes. -/
def escape (value : List Char) : List Char := value.flatMap escapeChar

/-- A character of a help text. -/
def escapeHelpChar (c : Char) : List Char :=
  if c = '\\' then ['\\', '\\'] else if c = '\n' then ['\\', 'n'] else [c]

def escapeHelp (text : List Char) : List Char := text.flatMap escapeHelpChar

def printLabel (label : Name × String) : List Char :=
  label.1.text.toList ++ '=' :: '"' :: (escape label.2.toList ++ ['"'])

/-- The labels of a sample, without the braces. -/
def printLabels (labels : List (Name × String)) : List Char :=
  [','].intercalate (labels.map printLabel)

def Decimal.print (d : Decimal) : List Char :=
  Nat.toDigits 10 d.whole ++
    if d.fraction = [] then [] else '.' :: d.fraction.map fun n => n.val.digitChar

def Value.print : Value → List Char
  | .posInf => "+Inf".toList
  | .decimal d => d.print

def Kind.print : Kind → List Char
  | .counter => "counter".toList
  | .gauge => "gauge".toList
  | .histogram => "histogram".toList
  | .summary => "summary".toList
  | .untyped => "untyped".toList

def Sample.print (s : Sample) : List Char :=
  s.name.text.toList ++
    ((if s.labels = [] then [] else '\x7b' :: (printLabels s.labels ++ ['\x7d'])) ++
      ' ' :: s.value.print)

def Line.print : Line → List Char
  | .help name text =>
    ['#', ' ', 'H', 'E', 'L', 'P', ' '] ++
      (name.text.toList ++ ' ' :: escapeHelp text.text.toList)
  | .type name kind =>
    ['#', ' ', 'T', 'Y', 'P', 'E', ' '] ++ (name.text.toList ++ ' ' :: kind.print)
  | .sample s => s.print

/-- A page: every line ends in a line feed. -/
def printPage (page : List Line) : List Char := page.flatMap fun l => l.print ++ ['\n']

@[simp]
theorem Value.print_ofNat (n : ℕ) : (Value.ofNat n).print = Nat.toDigits 10 n := by
  simp [ofNat, print, Decimal.print]

@[simp]
theorem printPage_nil : printPage [] = [] := rfl

@[simp]
theorem printPage_cons (l : Line) (page : List Line) :
    printPage (l :: page) = l.print ++ '\n' :: printPage page := by
  simp [printPage]

@[simp]
theorem printPage_append (page page' : List Line) :
    printPage (page ++ page') = printPage page ++ printPage page' :=
  List.flatMap_append

/-! ### Reading -/

def skipBlanks (cs : List Char) : List Char := cs.dropWhile isBlank

/-- The characters up to the next blank, and what follows. -/
def readToken (cs : List Char) : List Char × List Char :=
  (cs.takeWhile fun c => !isBlank c, cs.dropWhile fun c => !isBlank c)

/-- A name and what follows. -/
def readName (cs : List Char) : Option (Name × List Char) :=
  let name := cs.takeWhile isNameChar
  if h : isName (String.ofList name).toList = true then
    some (⟨String.ofList name, h⟩, cs.dropWhile isNameChar)
  else none

/-- A label value up to its closing quote, and what follows. -/
def readLabelValue : List Char → Option (List Char × List Char)
  | [] => none
  | '"' :: cs => some ([], cs)
  | '\\' :: '\\' :: cs => (readLabelValue cs).map fun r => ('\\' :: r.1, r.2)
  | '\\' :: '"' :: cs => (readLabelValue cs).map fun r => ('"' :: r.1, r.2)
  | '\\' :: 'n' :: cs => (readLabelValue cs).map fun r => ('\n' :: r.1, r.2)
  | '\\' :: _ => none
  | c :: cs => (readLabelValue cs).map fun r => (c :: r.1, r.2)

/-- A label, its value in quotes, and what follows. -/
def readLabel (cs : List Char) : Option ((Name × String) × List Char) :=
  (readName cs).bind fun (name, cs) =>
    match skipBlanks cs with
    | '=' :: cs =>
      match skipBlanks cs with
      | '"' :: cs => (readLabelValue cs).map fun r => ((name, String.ofList r.1), r.2)
      | _ => none
    | _ => none

/-- The labels up to the closing brace, and what follows; `fuel` bounds their number. -/
def readLabels : ℕ → List Char → Option (List (Name × String) × List Char)
  | 0, _ => none
  | fuel + 1, cs =>
    let cs := skipBlanks cs
    if cs.head? = some '\x7d' then some ([], cs.tail)
    else (readLabel cs).bind fun (label, cs) =>
      match skipBlanks cs with
      | ',' :: cs => (readLabels fuel cs).map fun r => (label :: r.1, r.2)
      | '\x7d' :: cs => some ([label], cs)
      | _ => none

def readDigit (c : Char) : Fin 10 := Fin.ofNat 10 (c.toNat - 48)

def readValue (token : List Char) : Option Value :=
  if token = "+Inf".toList then some .posInf
  else
    let whole := token.takeWhile Char.isDigit
    if whole = [] then none
    else match token.dropWhile Char.isDigit with
      | [] => some (.decimal ⟨Nat.ofDigitChars 10 whole 0, []⟩)
      | '.' :: fraction =>
        if fraction ≠ [] ∧ fraction.all Char.isDigit then
          some (.decimal ⟨Nat.ofDigitChars 10 whole 0, fraction.map readDigit⟩)
        else none
      | _ => none

def readKind (token : List Char) : Option Kind :=
  [Kind.counter, .gauge, .histogram, .summary, .untyped].find? fun kind => kind.print == token

/-- A help text, which ends with its line. -/
def readHelp : List Char → Option (List Char)
  | [] => some []
  | '\\' :: '\\' :: cs => (readHelp cs).map fun r => '\\' :: r
  | '\\' :: 'n' :: cs => (readHelp cs).map fun r => '\n' :: r
  | '\\' :: _ => none
  | c :: cs => (readHelp cs).map fun r => c :: r

/-- The labels of a sample, if it has any. -/
def readLabelSet (cs : List Char) : Option (List (Name × String) × List Char) :=
  if cs.head? = some '\x7b' then readLabels cs.length cs.tail else some ([], cs)

/-- The value that ends a sample. -/
def readLastValue (cs : List Char) : Option Value :=
  let (token, cs) := readToken (skipBlanks cs)
  if skipBlanks cs = [] then readValue token else none

/-- A sample: its name, its labels in braces if there are any, and its value. -/
def readSample (cs : List Char) : Option Sample :=
  (readName cs).bind fun (name, cs) => (readLabelSet (skipBlanks cs)).bind fun (labels, cs) =>
    (readLastValue cs).map fun value => ⟨name, labels, value⟩

/-- What follows the `#` of a comment: `HELP`, `TYPE`, or something that says nothing. -/
def readComment (cs : List Char) : Option (List Line) :=
  let (word, cs) := readToken (skipBlanks cs)
  if word = "HELP".toList then
    (readName (skipBlanks cs)).bind fun (name, cs) => (readHelp (skipBlanks cs)).bind fun text =>
      if h : (String.ofList text).toList.head?.any isBlank = false then
        some [.help name ⟨String.ofList text, h⟩]
      else none
  else if word = "TYPE".toList then
    (readName (skipBlanks cs)).bind fun (name, cs) =>
      let (token, cs) := readToken (skipBlanks cs)
      if skipBlanks cs = [] then (readKind token).map fun kind => [.type name kind] else none
  else some []

/-- What a line says; a comment and a blank line say nothing. -/
def readLine (cs : List Char) : Option (List Line) :=
  let cs := skipBlanks cs
  if cs = [] then some []
  else if cs.head? = some '#' then readComment cs.tail
  else (readSample cs).map fun s => [.sample s]

/-- A page: the lines between line feeds, each of which has to be readable. -/
def readPage (text : List Char) : Option (List Line) :=
  ((text.splitOn '\n').mapM readLine).map List.flatten

/-! ### Tokens read back -/

section

variable {cs rest : List Char}

/-- What starts with no blank. -/
def NoBlank (cs : List Char) : Prop := cs.head?.any isBlank = false

theorem skipBlanks_of_noBlank (h : NoBlank cs) : skipBlanks cs = cs := by
  cases cs with
  | nil => rfl
  | cons c cs => exact List.dropWhile_cons_of_neg (by simpa [NoBlank] using h)

theorem skipBlanks_cons_blank (h : NoBlank cs) : skipBlanks (' ' :: cs) = cs := by
  rw [skipBlanks, List.dropWhile_cons_of_pos (by decide)]
  exact skipBlanks_of_noBlank h

theorem isBlank_of_isNameChar {c : Char} (h : isNameChar c = true) : isBlank c = false := by
  rw [isBlank, Bool.or_eq_false_iff, beq_eq_false_iff_ne, beq_eq_false_iff_ne]
  constructor <;> rintro rfl <;> exact absurd h (by decide)

theorem Name.forall_isNameChar (name : Name) : ∀ c ∈ name.text.toList, isNameChar c = true := by
  have h := name.valid
  simp only [isName, Bool.and_eq_true, List.all_eq_true] at h
  exact h.1.1

theorem Name.exists_cons (name : Name) :
    ∃ c cs, name.text.toList = c :: cs ∧ isNameChar c = true := by
  have h := name.valid
  simp only [isName, Bool.and_eq_true, Bool.not_eq_true'] at h
  obtain ⟨c, cs, hcs⟩ := List.exists_cons_of_ne_nil (List.isEmpty_eq_false_iff.mp h.1.2)
  exact ⟨c, cs, hcs, name.forall_isNameChar c (hcs ▸ List.mem_cons_self)⟩

theorem Name.noBlank (name : Name) : NoBlank (name.text.toList ++ rest) := by
  obtain ⟨c, cs, hcs, hc⟩ := name.exists_cons
  simpa [NoBlank, hcs] using isBlank_of_isNameChar hc

/-- A name is read up to the first character that is of no name. -/
theorem readName_append (name : Name) (hrest : rest.head?.any isNameChar = false) :
    readName (name.text.toList ++ rest) = some (name, rest) := by
  have htake : rest.takeWhile isNameChar = [] ∧ rest.dropWhile isNameChar = rest := by
    cases rest with
    | nil => exact ⟨rfl, rfl⟩
    | cons c rest =>
      have hc : ¬isNameChar c = true := by simpa using hrest
      exact ⟨List.takeWhile_cons_of_neg hc, List.dropWhile_cons_of_neg hc⟩
  have hname : String.ofList ((name.text.toList ++ rest).takeWhile isNameChar) = name.text := by
    rw [List.takeWhile_append_of_pos name.forall_isNameChar, htake.1, List.append_nil,
      String.ofList_toList]
  simp only [readName, hname, name.valid, dif_pos]
  rw [List.dropWhile_append_of_pos name.forall_isNameChar, htake.2]

/-- A token is read up to the first blank. -/
theorem readToken_append (hcs : ∀ c ∈ cs, isBlank c = false)
    (hrest : rest = [] ∨ ∃ tail, rest = ' ' :: tail) : readToken (cs ++ rest) = (cs, rest) := by
  have hcs' : ∀ c ∈ cs, (!isBlank c) = true := fun c hc => by rw [hcs c hc]; rfl
  have htake : rest.takeWhile (fun c => !isBlank c) = [] ∧
      rest.dropWhile (fun c => !isBlank c) = rest := by
    rcases hrest with rfl | ⟨tail, rfl⟩
    · exact ⟨rfl, rfl⟩
    · exact ⟨rfl, rfl⟩
  rw [readToken, List.takeWhile_append_of_pos hcs', List.dropWhile_append_of_pos hcs', htake.1,
    htake.2, List.append_nil]

end

/-! ### Values read back -/

theorem readDigit_digitChar : ∀ n : Fin 10, readDigit n.val.digitChar = n := by decide

theorem isDigit_digitChar : ∀ n : Fin 10, n.val.digitChar.isDigit = true := by decide

/-- A number is printed in digits. -/
theorem isDigit_of_mem_toDigits {n : ℕ} {c : Char} (h : c ∈ Nat.toDigits 10 n) :
    c.isDigit = true :=
  Nat.isDigit_of_mem_toDigits (by decide) (by decide) h

theorem isBlank_of_isDigit {c : Char} (h : c.isDigit = true) : isBlank c = false := by
  rw [isBlank, Bool.or_eq_false_iff, beq_eq_false_iff_ne, beq_eq_false_iff_ne]
  constructor <;> rintro rfl <;> exact absurd h (by decide)

/-- The digits of the whole part end where the fraction begins. -/
private theorem whole_print (d : Decimal) :
    d.print.takeWhile Char.isDigit = Nat.toDigits 10 d.whole ∧
      d.print.dropWhile Char.isDigit =
        if d.fraction = [] then [] else '.' :: d.fraction.map fun n => n.val.digitChar := by
  have hdigits : ∀ c ∈ Nat.toDigits 10 d.whole, c.isDigit = true := fun _ => isDigit_of_mem_toDigits
  rw [Decimal.print, List.takeWhile_append_of_pos hdigits, List.dropWhile_append_of_pos hdigits]
  split
  · simp
  · have hdot : ¬Char.isDigit '.' = true := by decide
    rw [List.takeWhile_cons_of_neg hdot, List.dropWhile_cons_of_neg hdot, List.append_nil]
    exact ⟨rfl, rfl⟩

/-- A number starts with a digit. -/
theorem Decimal.exists_cons (d : Decimal) : ∃ c cs, d.print = c :: cs ∧ c.isDigit = true := by
  obtain ⟨c, cs, hcs⟩ := List.exists_cons_of_ne_nil (Nat.toDigits_ne_nil (n := d.whole) (b := 10))
  refine ⟨c, _, by rw [Decimal.print, hcs]; rfl, isDigit_of_mem_toDigits (n := d.whole) ?_⟩
  rw [hcs]
  exact List.mem_cons_self

/-- All the characters of a value are digits, a point, or those of `+Inf`. -/
theorem Value.forall_print {p : Char → Prop} (hinf : ∀ c ∈ "+Inf".toList, p c)
    (hdigit : ∀ c : Char, c.isDigit = true → p c) (hdot : p '.') (v : Value) :
    ∀ c ∈ v.print, p c := by
  cases v with
  | posInf => exact hinf
  | decimal d =>
    intro c hc
    rw [Value.print, Decimal.print, List.mem_append] at hc
    rcases hc with hc | hc
    · exact hdigit c (isDigit_of_mem_toDigits hc)
    · split at hc
      · cases hc
      · rcases List.mem_cons.mp hc with rfl | hc
        · exact hdot
        · obtain ⟨n, -, rfl⟩ := List.mem_map.mp hc
          exact hdigit _ (isDigit_digitChar n)

theorem Value.noBlank_print (v : Value) : ∀ c ∈ v.print, isBlank c = false :=
  v.forall_print (by decide) (fun _ => isBlank_of_isDigit) rfl

theorem Value.not_mem_print (v : Value) : '\n' ∉ v.print := by
  have hdigit : ∀ c : Char, c.isDigit = true → c ≠ '\n' := by
    rintro c hc rfl
    exact absurd hc (by decide)
  exact fun h => v.forall_print (p := (· ≠ '\n')) (by decide) hdigit (by decide) _ h rfl

theorem Value.exists_cons (v : Value) : ∃ c cs, v.print = c :: cs := by
  cases v with
  | posInf => exact ⟨_, _, rfl⟩
  | decimal d =>
    obtain ⟨c, cs, hcs, -⟩ := d.exists_cons
    exact ⟨c, cs, hcs⟩

/-- A value is read back. -/
theorem readValue_print (v : Value) : readValue v.print = some v := by
  cases v with
  | posInf => rfl
  | decimal d =>
    obtain ⟨c, cs, hcs, hdigit⟩ := d.exists_cons
    have hinf : d.print ≠ "+Inf".toList := by
      rw [hcs]
      rintro h
      cases h
      exact absurd hdigit (by decide)
    have hwhole : Nat.toDigits 10 d.whole ≠ [] := Nat.toDigits_ne_nil
    have hread : (d.fraction.map fun n => n.val.digitChar).map readDigit = d.fraction := by
      rw [List.map_map]
      exact (List.map_congr_left fun n _ => readDigit_digitChar n).trans (List.map_id _)
    rw [readValue, Value.print, if_neg hinf]
    simp only [whole_print, if_neg hwhole, Nat.ofDigitChars_ten_toDigits]
    by_cases hfraction : d.fraction = []
    · simp only [if_pos hfraction]
      rw [← hfraction]
    · have hall : (d.fraction.map fun n => n.val.digitChar) ≠ [] ∧
          (d.fraction.map fun n => n.val.digitChar).all Char.isDigit = true := by
        simp [hfraction]
      simp only [if_neg hfraction, if_pos hall, hread]

theorem readKind_print : ∀ kind : Kind, readKind kind.print = some kind := by
  intro kind
  cases kind <;> decide

theorem Kind.noBlank_print (kind : Kind) : ∀ c ∈ kind.print, isBlank c = false := by
  cases kind <;> decide

theorem Kind.exists_cons (kind : Kind) : ∃ c cs, kind.print = c :: cs := by
  cases kind <;> exact ⟨_, _, rfl⟩

theorem readHelp_escapeHelp (cs : List Char) : readHelp (escapeHelp cs) = some cs := by
  induction cs with
  | nil => rfl
  | cons c cs ih =>
    rw [escapeHelp, List.flatMap_cons, ← escapeHelp, escapeHelpChar]
    by_cases hbackslash : c = '\\'
    · subst hbackslash
      simp [readHelp, ih]
    · by_cases hfeed : c = '\n'
      · subst hfeed
        simp [readHelp, ih]
      · simp [readHelp, ih, hbackslash, hfeed]

/-! ### Labels read back -/

/-- One character of a label value, whatever follows. -/
theorem readLabelValue_escapeChar (c : Char) (rest : List Char) :
    readLabelValue (escapeChar c ++ rest) = (readLabelValue rest).map fun r => (c :: r.1, r.2) := by
  rw [escapeChar]
  by_cases hbackslash : c = '\\'
  · subst hbackslash
    rfl
  · by_cases hquote : c = '"'
    · subst hquote
      rfl
    · by_cases hfeed : c = '\n'
      · subst hfeed
        rfl
      · simp only [if_neg hbackslash, if_neg hquote, if_neg hfeed, List.singleton_append]
        rw [readLabelValue]
        all_goals simp_all

/-- **A label value reads back as it was**, whatever follows its quote. -/
theorem readLabelValue_escape (value rest : List Char) :
    readLabelValue (escape value ++ '"' :: rest) = some (value, rest) := by
  induction value with
  | nil => rfl
  | cons c value ih =>
    rw [escape, List.flatMap_cons, ← escape, List.append_assoc, readLabelValue_escapeChar, ih]
    rfl

/-- A label is read back, whatever follows. -/
theorem readLabel_printLabel (label : Name × String) (rest : List Char) :
    readLabel (printLabel label ++ rest) = some (label, rest) := by
  have hname : readName (printLabel label ++ rest) =
      some (label.1, '=' :: '"' :: (escape label.2.toList ++ '"' :: rest)) := by
    have hprint : printLabel label ++ rest =
        label.1.text.toList ++ '=' :: '"' :: (escape label.2.toList ++ '"' :: rest) := by
      simp [printLabel]
    rw [hprint]
    exact readName_append label.1 rfl
  have hequals : skipBlanks ('=' :: '"' :: (escape label.2.toList ++ '"' :: rest)) =
      '=' :: '"' :: (escape label.2.toList ++ '"' :: rest) := skipBlanks_of_noBlank rfl
  have hquote : skipBlanks ('"' :: (escape label.2.toList ++ '"' :: rest)) =
      '"' :: (escape label.2.toList ++ '"' :: rest) := skipBlanks_of_noBlank rfl
  rw [readLabel, hname, Option.bind_some]
  simp only [hequals, hquote, readLabelValue_escape, Option.map_some, String.ofList_toList]

/-- A label starts with a character of its name, which is no blank and no brace. -/
theorem printLabel_head (label : Name × String) (rest : List Char) :
    NoBlank (printLabel label ++ rest) ∧ (printLabel label ++ rest).head? ≠ some '\x7d' := by
  obtain ⟨c, cs, hcs, hc⟩ := label.1.exists_cons
  have hprint : (printLabel label ++ rest).head? = some c := by
    simp [printLabel, hcs]
  refine ⟨by simpa [NoBlank, hprint] using isBlank_of_isNameChar hc, ?_⟩
  rw [hprint]
  rintro h
  cases h
  exact absurd hc (by decide)

/-- **A label set reads back as it was**, whatever follows its brace. -/
theorem readLabels_printLabels (labels : List (Name × String)) {fuel : ℕ}
    (hfuel : labels.length < fuel) (rest : List Char) :
    readLabels fuel (printLabels labels ++ '\x7d' :: rest) = some (labels, rest) := by
  induction labels generalizing fuel with
  | nil =>
    obtain ⟨fuel, rfl⟩ := Nat.exists_eq_succ_of_ne_zero (Nat.ne_of_gt hfuel)
    rfl
  | cons label labels ih =>
    obtain ⟨fuel, rfl⟩ := Nat.exists_eq_succ_of_ne_zero (Nat.ne_of_gt (Nat.zero_lt_of_lt hfuel))
    -- what follows the first label: the closing brace, or a comma and the others
    obtain ⟨tail, hprint, htail⟩ : ∃ tail, printLabels (label :: labels) ++ '\x7d' :: rest =
        printLabel label ++ tail ∧ ((labels = [] ∧ tail = '\x7d' :: rest) ∨
          tail = ',' :: (printLabels labels ++ '\x7d' :: rest)) := by
      cases labels with
      | nil => exact ⟨_, by simp [printLabels], .inl ⟨rfl, rfl⟩⟩
      | cons label' labels =>
        refine ⟨_, ?_, .inr rfl⟩
        simp [printLabels]
    obtain ⟨hblank, hbrace⟩ := printLabel_head label tail
    simp only [hprint, readLabels, skipBlanks_of_noBlank hblank, if_neg hbrace,
      readLabel_printLabel, Option.bind_some]
    rcases htail with ⟨rfl, rfl⟩ | rfl
    · rfl
    · have hcomma : skipBlanks (',' :: (printLabels labels ++ '\x7d' :: rest)) =
          ',' :: (printLabels labels ++ '\x7d' :: rest) := skipBlanks_of_noBlank rfl
      simp only [hcomma, ih (Nat.lt_of_succ_lt_succ hfuel), Option.map_some]

theorem length_le_length_printLabels (labels : List (Name × String)) :
    labels.length ≤ (printLabels labels).length := by
  induction labels with
  | nil => exact Nat.zero_le _
  | cons label labels ih =>
    have hlabel : 1 ≤ (printLabel label).length := by
      simp only [printLabel, List.length_append, List.length_cons]
      omega
    cases labels with
    | nil => simpa [printLabels] using hlabel
    | cons label' labels =>
      simp only [printLabels, List.map_cons, List.intercalate_cons_cons, List.length_append,
        List.length_cons] at ih ⊢
      omega

/-! ### Lines read back -/

/-- A value starts with no blank and with no brace. -/
theorem Value.print_head (v : Value) : NoBlank v.print ∧ v.print.head? ≠ some '\x7b' := by
  cases v with
  | posInf => exact ⟨rfl, by decide⟩
  | decimal d =>
    obtain ⟨c, cs, hcs, hc⟩ := d.exists_cons
    refine ⟨by simpa [Value.print, NoBlank, hcs] using isBlank_of_isDigit hc, ?_⟩
    rw [Value.print, hcs]
    rintro h
    cases h
    exact absurd hc (by decide)

/-- The value at the end of a sample is read back. -/
theorem readLastValue_print (v : Value) {cs : List Char} (hcs : skipBlanks cs = v.print) :
    readLastValue cs = some v := by
  have htoken := readToken_append v.noBlank_print (.inl rfl)
  rw [List.append_nil] at htoken
  rw [readLastValue, hcs, htoken]
  exact readValue_print v

/-- A sample is read back. -/
theorem readSample_print (s : Sample) : readSample s.print = some s := by
  obtain ⟨name, labels, value⟩ := s
  obtain ⟨hblank, hbrace⟩ := value.print_head
  have hvalue : skipBlanks (' ' :: value.print) = value.print := skipBlanks_cons_blank hblank
  by_cases hlabels : labels = []
  · subst hlabels
    have hname : readName (Sample.print ⟨name, [], value⟩) = some (name, ' ' :: value.print) :=
      readName_append name rfl
    simp only [readSample, hname, Option.bind_some, hvalue, readLabelSet, if_neg hbrace,
      readLastValue_print value (skipBlanks_of_noBlank hblank), Option.map_some]
  · have hprint : Sample.print ⟨name, labels, value⟩ = name.text.toList ++
        '\x7b' :: (printLabels labels ++ '\x7d' :: ' ' :: value.print) := by
      simp [Sample.print, hlabels]
    have hname : readName (Sample.print ⟨name, labels, value⟩) =
        some (name, '\x7b' :: (printLabels labels ++ '\x7d' :: ' ' :: value.print)) := by
      rw [hprint]
      exact readName_append name rfl
    have hset : readLabelSet (skipBlanks
        ('\x7b' :: (printLabels labels ++ '\x7d' :: ' ' :: value.print))) =
          some (labels, ' ' :: value.print) := by
      have hlength := length_le_length_printLabels labels
      have hbrace : NoBlank ('\x7b' :: (printLabels labels ++ '\x7d' :: ' ' :: value.print)) := rfl
      rw [skipBlanks_of_noBlank hbrace]
      refine readLabels_printLabels labels ?_ _
      simp only [List.length_cons, List.length_append]
      omega
    simp only [readSample, hname, Option.bind_some, hset, readLastValue_print value hvalue,
      Option.map_some]

/-- A help text does not begin with a blank. -/
theorem Help.noBlank_escapeHelp (text : Help) : NoBlank (escapeHelp text.text.toList) := by
  have h := text.start
  cases htext : text.text.toList with
  | nil => rfl
  | cons c cs =>
    rw [htext] at h
    rw [NoBlank, escapeHelp, List.flatMap_cons, escapeHelpChar]
    split
    · rfl
    · split
      · rfl
      · exact h

/-- The word a comment starts with. -/
theorem readToken_word {word rest : List Char} (hword : ∀ c ∈ word, isBlank c = false)
    (hne : word ≠ []) :
    readToken (skipBlanks (' ' :: (word ++ ' ' :: rest))) = (word, ' ' :: rest) := by
  have hblank : NoBlank (word ++ ' ' :: rest) := by
    obtain ⟨c, cs, rfl⟩ := List.exists_cons_of_ne_nil hne
    simpa [NoBlank] using hword c List.mem_cons_self
  rw [skipBlanks_cons_blank hblank]
  exact readToken_append hword (.inr ⟨rest, rfl⟩)

/-- A `HELP` line is read back. -/
theorem readLine_help (name : Name) (text : Help) :
    readLine (Line.help name text).print = some [.help name text] := by
  have hword : readToken (skipBlanks (' ' :: ("HELP".toList ++ ' ' :: (name.text.toList ++ ' ' ::
      escapeHelp text.text.toList)))) =
      ("HELP".toList, ' ' :: (name.text.toList ++ ' ' :: escapeHelp text.text.toList)) :=
    readToken_word (by decide) (by decide)
  have hname : readName (skipBlanks (' ' :: (name.text.toList ++ ' ' ::
      escapeHelp text.text.toList))) = some (name, ' ' :: escapeHelp text.text.toList) := by
    rw [skipBlanks_cons_blank name.noBlank]
    exact readName_append name rfl
  have hhelp : readHelp (skipBlanks (' ' :: escapeHelp text.text.toList)) =
      some text.text.toList := by
    rw [skipBlanks_cons_blank text.noBlank_escapeHelp, readHelp_escapeHelp]
  have hcomment : readLine (Line.help name text).print = readComment
      (' ' :: ("HELP".toList ++ ' ' :: (name.text.toList ++ ' ' ::
        escapeHelp text.text.toList))) := rfl
  rw [hcomment, readComment, hword]
  simp only [if_true, hname, hhelp, Option.bind_some, String.ofList_toList, text.start, dif_pos]

theorem readLine_type (name : Name) (kind : Kind) :
    readLine (Line.type name kind).print = some [.type name kind] := by
  have hword : readToken (skipBlanks (' ' :: ("TYPE".toList ++ ' ' ::
      (name.text.toList ++ ' ' :: kind.print)))) =
      ("TYPE".toList, ' ' :: (name.text.toList ++ ' ' :: kind.print)) :=
    readToken_word (by decide) (by decide)
  have hname : readName (skipBlanks (' ' :: (name.text.toList ++ ' ' :: kind.print))) =
      some (name, ' ' :: kind.print) := by
    rw [skipBlanks_cons_blank name.noBlank]
    exact readName_append name rfl
  have hkind : readToken (skipBlanks (' ' :: kind.print)) = (kind.print, []) := by
    cases kind <;> rfl
  have hcomment : readLine (Line.type name kind).print = readComment
      (' ' :: ("TYPE".toList ++ ' ' :: (name.text.toList ++ ' ' :: kind.print))) := rfl
  have hne : "TYPE".toList ≠ "HELP".toList := by decide
  rw [hcomment, readComment, hword]
  simp only [if_neg hne, if_true, hname, Option.bind_some, hkind, readKind_print, Option.map_some]
  rfl

/-- A sample starts with a character of its name. -/
theorem Sample.exists_cons (s : Sample) : ∃ c cs, s.print = c :: cs ∧ isNameChar c = true := by
  obtain ⟨c, cs, hcs, hc⟩ := s.name.exists_cons
  obtain ⟨rest, hrest⟩ : ∃ rest, s.print = s.name.text.toList ++ rest := ⟨_, rfl⟩
  exact ⟨c, cs ++ rest, by rw [hrest, hcs, List.cons_append], hc⟩

theorem readLine_sample (s : Sample) : readLine (Line.sample s).print = some [.sample s] := by
  obtain ⟨c, cs, hcs, hc⟩ := s.exists_cons
  have hblank : NoBlank s.print := by
    simpa [NoBlank, hcs] using isBlank_of_isNameChar hc
  have hhash : s.print.head? ≠ some '#' := by
    rw [hcs]
    rintro h
    cases h
    exact absurd hc (by decide)
  have hne : s.print ≠ [] := by simp [hcs]
  have hprint : (Line.sample s).print = s.print := rfl
  unfold readLine
  rw [hprint, skipBlanks_of_noBlank hblank]
  simp only [if_neg hne, if_neg hhash, readSample_print, Option.map_some]

/-- **Every line reads back.** -/
theorem readLine_print (l : Line) : readLine l.print = some [l] := by
  cases l with
  | help name text => exact readLine_help name text
  | type name kind => exact readLine_type name kind
  | sample s => exact readLine_sample s

/-! ### Pages read back -/

theorem not_mem_name (name : Name) : '\n' ∉ name.text.toList :=
  fun h => absurd (name.forall_isNameChar _ h) (by decide)

/-- An escaped value is on one line. -/
theorem not_mem_escape (value : List Char) : '\n' ∉ escape value := by
  intro h
  obtain ⟨c, -, hc⟩ := List.mem_flatMap.mp h
  rw [escapeChar] at hc
  split_ifs at hc with _ _ hfeed
  · simp at hc
  · simp at hc
  · simp at hc
  · exact hfeed (List.mem_singleton.mp hc).symm

theorem not_mem_escapeHelp (text : List Char) : '\n' ∉ escapeHelp text := by
  intro h
  obtain ⟨c, -, hc⟩ := List.mem_flatMap.mp h
  rw [escapeHelpChar] at hc
  split_ifs at hc with _ hfeed
  · simp at hc
  · simp at hc
  · exact hfeed (List.mem_singleton.mp hc).symm

theorem not_mem_printLabels (labels : List (Name × String)) : '\n' ∉ printLabels labels := by
  induction labels with
  | nil => simp [printLabels]
  | cons label labels ih =>
    have hlabel : '\n' ∉ printLabel label := by
      simp [printLabel, not_mem_name, not_mem_escape]
    cases labels with
    | nil => simpa [printLabels] using hlabel
    | cons label' labels =>
      simp only [printLabels, List.map_cons, List.intercalate_cons_cons, List.mem_append,
        List.mem_singleton] at ih ⊢
      simp only [hlabel, ih, or_false, false_or]
      decide

/-- A printed line is one line: nothing in its labels or its help text ends it early. -/
theorem Line.not_mem_print (l : Line) : '\n' ∉ l.print := by
  cases l with
  | help name text => simp [print, not_mem_name, not_mem_escapeHelp]
  | type name kind =>
    have hkind : '\n' ∉ kind.print := by cases kind <;> decide
    simp [print, not_mem_name, hkind]
  | sample s =>
    have hvalue : '\n' ∉ s.value.print := s.value.not_mem_print
    have hlabels : '\n' ∉
        if s.labels = [] then [] else '\x7b' :: (printLabels s.labels ++ ['\x7d']) := by
      split_ifs <;> simp [not_mem_printLabels]
    simp [print, Sample.print, not_mem_name, hlabels, hvalue]

/-- A page is its lines joined, with an empty one at the end. -/
theorem printPage_eq_intercalate (page : List Line) :
    printPage page = ['\n'].intercalate (page.map Line.print ++ [[]]) := by
  induction page with
  | nil => rfl
  | cons l page ih =>
    rw [printPage, List.flatMap_cons, ← printPage, ih]
    cases page with
    | nil => simp
    | cons l' page =>
      simp only [List.map_cons, List.cons_append, List.intercalate_cons_cons]

/-- The lines of a page are those that were printed, and the end of the text. -/
theorem splitOn_printPage (page : List Line) :
    (printPage page).splitOn '\n' = page.map Line.print ++ [[]] := by
  rw [printPage_eq_intercalate]
  refine List.splitOn_intercalate '\n' (fun l hl => ?_) (by simp)
  rcases List.mem_append.mp hl with hl | hl
  · obtain ⟨l, -, rfl⟩ := List.mem_map.mp hl
    exact l.not_mem_print
  · rw [List.mem_singleton.mp hl]
    exact List.not_mem_nil

/-- **Every page reads back.** -/
theorem readPage_print (page : List Line) : readPage (printPage page) = some page := by
  have hlines : ∀ page : List Line, (page.map Line.print ++ [[]]).mapM readLine =
      some (page.map (fun l => [l]) ++ [[]]) := by
    intro page
    induction page with
    | nil => rfl
    | cons l page ih =>
      rw [List.map_cons, List.cons_append, List.mapM_cons, readLine_print, ih]
      rfl
  rw [readPage, splitOn_printPage, hlines, Option.map_some, List.flatten_append,
    ← List.flatMap_def, List.flatMap_singleton']
  simp

/-! ### Families -/

/-- A metric with all its samples, each a label set and a value. -/
structure Family where
  name : Name
  help : Help
  kind : Kind
  samples : List (List (Name × String) × Value)

/-- The lines of a family: its header, and a line for each sample. -/
def Family.lines (f : Family) : List Line :=
  .help f.name f.help :: .type f.name f.kind ::
    f.samples.map fun s => .sample ⟨f.name, s.1, s.2⟩

/-- The samples a page has of a metric. -/
def samplesOf (page : List Line) (name : Name) : List (List (Name × String) × Value) :=
  page.filterMap fun
    | .sample s => if s.name = name then some (s.labels, s.value) else none
    | _ => none

/-- The help texts a page gives for a metric. -/
def helpsOf (page : List Line) (name : Name) : List Help :=
  page.filterMap fun
    | .help name' text => if name' = name then some text else none
    | _ => none

/-- The types a page gives for a metric. -/
def kindsOf (page : List Line) (name : Name) : List Kind :=
  page.filterMap fun
    | .type name' kind => if name' = name then some kind else none
    | _ => none

section

variable {f : Family} {families : List Family} {name : Name}

/-- The samples of a family are found under its name. -/
theorem samplesOf_lines : samplesOf f.lines name = if f.name = name then f.samples else [] := by
  simp only [samplesOf, Family.lines, List.filterMap_cons, List.filterMap_map]
  split_ifs with h <;> simp [h]

theorem helpsOf_lines : helpsOf f.lines name = if f.name = name then [f.help] else [] := by
  simp only [helpsOf, Family.lines, List.filterMap_cons, List.filterMap_map]
  split_ifs <;> simp

theorem kindsOf_lines : kindsOf f.lines name = if f.name = name then [f.kind] else [] := by
  simp only [kindsOf, Family.lines, List.filterMap_cons, List.filterMap_map]
  split_ifs <;> simp

/-- Where keys are used once, one item has the key of an item of the list. -/
theorem filter_key_eq_singleton {ι κ : Type*} [DecidableEq κ] {key : ι → κ} {items : List ι} {a : ι}
    (hnodup : (items.map key).Nodup) (ha : a ∈ items) :
    (items.filter fun b => key b = key a) = [a] := by
  classical
  have hkey : ∀ b ∈ items, decide (key b = key a) = (b == a) := by
    intro b hb
    rw [Bool.eq_iff_iff, decide_eq_true_iff, beq_iff_eq]
    exact ⟨fun h => List.inj_on_of_nodup_map hnodup hb ha h, congrArg key⟩
  rw [List.filter_congr hkey, List.filter_beq, List.count_eq_one_of_mem hnodup.of_map ha]
  rfl

section

variable {α : Type*} {pick : Line → Option α} {g : Family → List α}

/-- Where names are used once, what is picked of a page under a name comes from the one family that
has it. -/
theorem filterMap_lines_of_mem
    (hpick : ∀ f', f'.lines.filterMap pick = if f'.name = f.name then g f' else [])
    (hnodup : (families.map Family.name).Nodup) (hf : f ∈ families) :
    (families.flatMap Family.lines).filterMap pick = g f := by
  have hfilter : ∀ families : List Family,
      (families.flatMap fun f' => if f'.name = f.name then g f' else []) =
        (families.filter fun f' => f'.name = f.name).flatMap g := by
    intro families
    induction families with
    | nil => rfl
    | cons f' families ih =>
      rw [List.flatMap_cons, ih]
      by_cases h : f'.name = f.name <;> simp [h]
  rw [List.filterMap_flatMap, List.flatMap_congr fun f' _ => hpick f', hfilter,
    filter_key_eq_singleton hnodup hf]
  simp

/-- Nothing is picked of a page under a name that no family has. -/
theorem filterMap_lines_of_not_mem
    (hpick : ∀ f, f.lines.filterMap pick = if f.name = name then g f else [])
    (hname : name ∉ families.map Family.name) :
    (families.flatMap Family.lines).filterMap pick = [] := by
  rw [List.filterMap_flatMap, List.flatMap_eq_nil_iff]
  intro f hf
  rw [hpick, if_neg]
  rintro rfl
  exact hname (List.mem_map_of_mem hf)

end

/-- **A page of families** whose names differ has of each just its samples and its header, once. -/
theorem family_of_mem (hnodup : (families.map Family.name).Nodup) (hf : f ∈ families) :
    samplesOf (families.flatMap Family.lines) f.name = f.samples ∧
      helpsOf (families.flatMap Family.lines) f.name = [f.help] ∧
        kindsOf (families.flatMap Family.lines) f.name = [f.kind] :=
  ⟨filterMap_lines_of_mem (fun _ => samplesOf_lines) hnodup hf,
    filterMap_lines_of_mem (fun _ => helpsOf_lines) hnodup hf,
    filterMap_lines_of_mem (fun _ => kindsOf_lines) hnodup hf⟩

/-- And nothing of a name that no family has. -/
theorem family_of_not_mem (hname : name ∉ families.map Family.name) :
    samplesOf (families.flatMap Family.lines) name = [] ∧
      helpsOf (families.flatMap Family.lines) name = [] ∧
        kindsOf (families.flatMap Family.lines) name = [] :=
  ⟨filterMap_lines_of_not_mem (fun _ => samplesOf_lines) hname,
    filterMap_lines_of_not_mem (fun _ => helpsOf_lines) hname,
    filterMap_lines_of_not_mem (fun _ => kindsOf_lines) hname⟩

end

end Prometheus
