import Jmap2Telegram.ForStd.Str
import Jmap2Telegram.Transition.Execution

/-!
# Reading MarkdownV2

A reader for the part of Telegram's MarkdownV2 a generated message may use: `*` switches bold, a
backslash makes the next character literal, `[text](url)` is a link inside whose parentheses only
`)` and the backslash are special, `>` at the start of a line opens a quote. Every other unescaped
reserved character is an error, as is a `>` elsewhere, an unbalanced `*`, or an unfinished link.

* `Reads cs ts`: wherever a line stands, the text `cs` is read as the tokens `ts`.
* `reads_escape`, `reads_plain`, `reads_bold`, `reads_link`, `Reads.append`: how text is put
  together so that it reads as meant.
* `emits_quote`: what follows a `>` at the start of a line.
-/

namespace MarkdownV2

open Transition

/-- The characters Telegram reserves: each must be escaped to stand for itself. -/
def reservedChars : List Char :=
  ['_', '*', '[', ']', '(', ')', '~', '\x60', '>', '#', '+', '-', '=', '|', '\x7b', '\x7d', '.',
    '!', '\\']

/-- What the reader finds. -/
inductive Token where
  /-- A literal character. -/
  | char (c : Char)
  /-- Bold on or off. -/
  | bold
  | linkOpen
  /-- The end of a link, with its target. -/
  | linkClose (url : List Char)
  /-- The start of a quoted line. -/
  | quote
  deriving DecidableEq

/-- Where the reader is: in the text, maybe at the start of a line, after a backslash, between a
link's text and its target, in the target, or after a backslash there. -/
inductive Mode where
  | text (start : Bool)
  | escape
  | linkEnd
  | url (target : List Char)
  | urlEscape (target : List Char)
  deriving DecidableEq

/-- The reader: its mode, whether bold is on, whether a link's text is open, and what it found. -/
structure Reader where
  mode : Mode
  bold : Bool
  link : Bool
  out : List Token

namespace Reader

/-- A literal character. -/
def push (r : Reader) (c : Char) : Reader :=
  { r with mode := .text (c == '\n'), out := r.out ++ [.char c] }

/-- One character in the text. -/
def stepText (r : Reader) (start : Bool) (c : Char) : Option Reader :=
  if c = '\\' then some { r with mode := .escape }
  else if c = '*' then
    some { r with mode := .text false, bold := !r.bold, out := r.out ++ [.bold] }
  else if c = '[' then
    if r.link then none
    else some { r with mode := .text false, link := true, out := r.out ++ [.linkOpen] }
  else if c = ']' then
    if r.link then some { r with mode := .linkEnd } else none
  else if c = '>' then
    if start then some { r with mode := .text false, out := r.out ++ [.quote] } else none
  else if c ∈ reservedChars then none
  else some (r.push c)

/-- One character. -/
def step (r : Reader) (c : Char) : Option Reader :=
  match r.mode with
  | .text start => r.stepText start c
  | .escape => some (r.push c)
  | .linkEnd => if c = '(' then some { r with mode := .url [] } else none
  | .url target =>
    if c = '\\' then some { r with mode := .urlEscape target }
    else if c = ')' then
      some { r with mode := .text false, link := false, out := r.out ++ [.linkClose target] }
    else some { r with mode := .url (target ++ [c]) }
  | .urlEscape target => some { r with mode := .url (target ++ [c]) }

end Reader

/-- Read a whole message. -/
def read (cs : List Char) : Option (List Token) :=
  match run Reader.step ⟨.text true, false, false, []⟩ cs with
  | some ⟨.text _, false, false, out⟩ => some out
  | _ => none

/-- The text a reader sees: the literal characters. -/
def visible (ts : List Token) : List Char :=
  ts.filterMap fun
    | .char c => some c
    | _ => none

@[simp]
theorem visible_append (ts us : List Token) : visible (ts ++ us) = visible ts ++ visible us :=
  List.filterMap_append

@[simp]
theorem visible_cons_char (c : Char) (ts : List Token) :
    visible (.char c :: ts) = c :: visible ts := rfl

@[simp]
theorem visible_map_char (cs : List Char) : visible (cs.map .char) = cs := by
  induction cs with
  | nil => rfl
  | cons c cs ih => rw [List.map_cons, visible_cons_char, ih]

/-- The marks a reader meets: everything but the literal characters. -/
def marks (ts : List Token) : List Token :=
  ts.filter fun
    | .char _ => false
    | _ => true

/-- Put a backslash before each character that needs one. -/
def escapeWith (needs : Char → Bool) (cs : List Char) : List Char :=
  cs.flatMap fun c => if needs c then ['\\', c] else [c]

section

variable {needs : Char → Bool} {cs ds : List Char}

@[simp]
theorem escapeWith_nil : escapeWith needs [] = [] := rfl

theorem escapeWith_cons (c : Char) :
    escapeWith needs (c :: cs) = (if needs c then ['\\', c] else [c]) ++ escapeWith needs cs := rfl

@[simp]
theorem escapeWith_append :
    escapeWith needs (cs ++ ds) = escapeWith needs cs ++ escapeWith needs ds :=
  List.flatMap_append

/-- Escaping goes through a join. -/
theorem escapeWith_intercalate (sep : List Char) (ls : List (List Char)) :
    escapeWith needs (sep.intercalate ls) =
      (escapeWith needs sep).intercalate (ls.map (escapeWith needs)) := by
  induction ls with
  | nil => rfl
  | cons l ls ih =>
    cases ls with
    | nil => simp
    | cons l' ls => simp [List.intercalate_cons_cons, List.map_cons] at ih ⊢; exact ih

end

/-- A line keeps its carriage return under an escaping that leaves it alone. -/
theorem stripCr_escapeWith {needs : Char → Bool} (hcr : needs '\r' = false) (line : List Char) :
    Str.stripCr (escapeWith needs line) = escapeWith needs (Str.stripCr line) := by
  rcases List.eq_nil_or_concat line with rfl | ⟨init, c, rfl⟩
  · rfl
  · rw [List.concat_eq_append, escapeWith_append]
    by_cases hc : c = '\r'
    · subst hc
      simp [Str.stripCr, escapeWith, hcr]
    · cases hneeds : needs c <;> simp [Str.stripCr, escapeWith, hneeds, hc]

/-- An escaping that leaves line endings alone escapes each line by itself. -/
theorem linesFrom_escapeWith {needs : Char → Bool} (hlf : needs '\n' = false)
    (hcr : needs '\r' = false) (line cs : List Char) :
    Str.linesFrom (escapeWith needs line) (escapeWith needs cs) =
      (Str.linesFrom line cs).map (escapeWith needs) := by
  induction cs generalizing line with
  | nil =>
    cases line with
    | nil => rfl
    | cons c line => cases hneeds : needs c <;> simp [Str.linesFrom, escapeWith, hneeds]
  | cons c cs ih =>
    have hpush : escapeWith needs (line ++ [c])
        = escapeWith needs line ++ (if needs c then ['\\', c] else [c]) := by
      simp [escapeWith]
    rw [escapeWith_cons]
    by_cases hc : c = '\n'
    -- a line feed ends the line, and the next one starts empty
    · subst hc
      have hrest := ih []
      rw [escapeWith_nil] at hrest
      simp [Str.linesFrom, hlf, hrest, stripCr_escapeWith hcr]
    · have hrest := ih (line ++ [c])
      rw [hpush] at hrest
      cases hneeds : needs c <;> simp_all [Str.linesFrom]

/-- Escape in the text: every reserved character. -/
def escape : List Char → List Char := escapeWith fun c => c ∈ reservedChars

/-- Escape in a link's target: `)` and the backslash. -/
def escapeUrl : List Char → List Char := escapeWith fun c => c = ')' || c = '\\'

/-- Whether a line starts after the text. -/
def lineStart (start : Bool) (cs : List Char) : Bool := cs.foldl (fun _ c => c == '\n') start

/-- Escaping keeps the lines apart. -/
theorem lines_escape (cs : List Char) : Str.lines (escape cs) = (Str.lines cs).map escape :=
  linesFrom_escapeWith (by decide) (by decide) [] cs

/-- A character that is not reserved stands for itself. -/
theorem stepText_of_not_mem {r : Reader} {start : Bool} {c : Char} (h : c ∉ reservedChars) :
    r.stepText start c = some (r.push c) := by
  have hne : ∀ d ∈ reservedChars, c ≠ d := fun d hd heq => h (heq ▸ hd)
  simp only [Reader.stepText, if_neg (hne '\\' (by decide)), if_neg (hne '*' (by decide)),
    if_neg (hne '[' (by decide)), if_neg (hne ']' (by decide)), if_neg (hne '>' (by decide)),
    if_neg h]

/-- Text without reserved characters is read as it stands. -/
theorem run_plain {cs : List Char} (h : ∀ c ∈ cs, c ∉ reservedChars) (start bold link : Bool)
    (out : List Token) :
    run Reader.step ⟨.text start, bold, link, out⟩ cs =
      some ⟨.text (lineStart start cs), bold, link, out ++ cs.map .char⟩ := by
  induction cs generalizing start out with
  | nil => simp [lineStart]
  | cons c cs ih =>
    have hc : Reader.stepText ⟨.text start, bold, link, out⟩ start c =
        some (Reader.push ⟨.text start, bold, link, out⟩ c) :=
      stepText_of_not_mem (h c List.mem_cons_self)
    simp only [run_cons, Reader.step, hc, Option.bind_some, Reader.push]
    rw [ih (fun d hd => h d (List.mem_cons_of_mem c hd))]
    simp [lineStart]

/-- Escaped text is read as the text itself. -/
theorem run_escape (cs : List Char) (start bold link : Bool) (out : List Token) :
    run Reader.step ⟨.text start, bold, link, out⟩ (escape cs) =
      some ⟨.text (lineStart start cs), bold, link, out ++ cs.map .char⟩ := by
  induction cs generalizing start out with
  | nil => simp [escape, lineStart]
  | cons c cs ih =>
    by_cases hc : c ∈ reservedChars
    · have hcons : escape (c :: cs) = '\\' :: c :: escape cs := by
        simp [escape, escapeWith_cons, hc]
      simp only [hcons, run_cons, Reader.step, Reader.stepText, if_true, Option.bind_some,
        Reader.push]
      rw [ih]
      simp [lineStart]
    · have hcons : escape (c :: cs) = c :: escape cs := by simp [escape, escapeWith_cons, hc]
      simp only [hcons, run_cons, Reader.step, stepText_of_not_mem hc, Option.bind_some,
        Reader.push]
      rw [ih]
      simp [lineStart]

/-- An escaped link target is read as the target itself. -/
theorem run_escapeUrl (cs target : List Char) (bold link : Bool) (out : List Token) :
    run Reader.step ⟨.url target, bold, link, out⟩ (escapeUrl cs) =
      some ⟨.url (target ++ cs), bold, link, out⟩ := by
  induction cs generalizing target with
  | nil => simp [escapeUrl]
  | cons c cs ih =>
    by_cases hc : c = ')' ∨ c = '\\'
    · have hcons : escapeUrl (c :: cs) = '\\' :: c :: escapeUrl cs := by
        simp [escapeUrl, escapeWith_cons, hc]
      simp only [hcons, run_cons, Reader.step, if_true, Option.bind_some]
      rw [ih, List.append_assoc, List.singleton_append]
    · have hcons : escapeUrl (c :: cs) = c :: escapeUrl cs := by
        simp [escapeUrl, escapeWith_cons, hc]
      obtain ⟨hparen, hback⟩ := not_or.mp hc
      simp only [hcons, run_cons, Reader.step, if_neg hparen, if_neg hback, Option.bind_some]
      rw [ih, List.append_assoc, List.singleton_append]

/-! ### Putting text together -/

/-- Read from a line that is at its start or not (`b`), outside bold and links, the text gives the
tokens and leaves the reader there, at the start of a line or not (`b'`). -/
def Emits (b b' : Bool) (cs : List Char) (ts : List Token) : Prop :=
  ∀ out, run Reader.step ⟨.text b, false, false, out⟩ cs =
    some ⟨.text b', false, false, out ++ ts⟩

/-- What is emitted for two texts in a row is emitted in a row. -/
theorem Emits.append {a b c : Bool} {cs ds : List Char} {ts us : List Token}
    (h : Emits a b cs ts) (h' : Emits b c ds us) : Emits a c (cs ++ ds) (ts ++ us) := by
  intro out
  rw [run_append, h out, Option.bind_some, h' (out ++ ts), List.append_assoc]

theorem Emits.nil (b : Bool) : Emits b b [] [] := fun out => by simp

/-- Wherever the line stands, the text gives the tokens. -/
def Reads (cs : List Char) (ts : List Token) : Prop := ∀ b, ∃ b', Emits b b' cs ts

section

variable {cs ds : List Char} {ts us : List Token}

theorem Reads.append (h : Reads cs ts) (h' : Reads ds us) : Reads (cs ++ ds) (ts ++ us) := by
  intro b
  obtain ⟨b', hb'⟩ := h b
  obtain ⟨b'', hb''⟩ := h' b'
  exact ⟨b'', hb'.append hb''⟩

theorem Reads.nil : Reads [] [] := fun b => ⟨b, .nil b⟩

theorem reads_plain (h : ∀ c ∈ cs, c ∉ reservedChars) : Reads cs (cs.map .char) :=
  fun b => ⟨_, fun out => run_plain h b false false out⟩

/-- An escaped text is read as the text. -/
theorem reads_escape (cs : List Char) : Reads (escape cs) (cs.map .char) :=
  fun b => ⟨_, fun out => run_escape cs b false false out⟩

/-- A line feed ends the line. -/
theorem Reads.newline (h : Reads cs ts) (b : Bool) :
    Emits b true (cs ++ ['\n']) (ts ++ [.char '\n']) := by
  obtain ⟨b', hb'⟩ := h b
  exact hb'.append fun out => run_plain (by decide) b' false false out

/-- Plain text between two `*` is read in bold. -/
theorem reads_bold (h : ∀ c ∈ cs, c ∉ reservedChars) :
    Reads ('*' :: (cs ++ ['*'])) (.bold :: (cs.map .char ++ [.bold])) := by
  refine fun b => ⟨false, fun out => ?_⟩
  have hopen : Reader.step ⟨.text b, false, false, out⟩ '*'
      = some ⟨.text false, true, false, out ++ [.bold]⟩ := rfl
  rw [run_cons, hopen, Option.bind_some, run_append, run_plain h, Option.bind_some]
  simp [Reader.step, Reader.stepText]

/-- A link with an escaped text and an escaped target is read as a link. -/
theorem reads_link (label url : List Char) :
    Reads ('[' :: (escape label ++ ([']', '('] ++ (escapeUrl url ++ [')']))))
      (.linkOpen :: (label.map .char ++ [.linkClose url])) := by
  refine fun b => ⟨false, fun out => ?_⟩
  have hopen : Reader.step ⟨.text b, false, false, out⟩ '['
      = some ⟨.text false, false, true, out ++ [.linkOpen]⟩ := rfl
  have hclose : ∀ b' out', run Reader.step ⟨.text b', false, true, out'⟩ [']', '(']
      = some ⟨.url [], false, true, out'⟩ := fun _ _ => rfl
  rw [run_cons, hopen, Option.bind_some, run_append, run_escape, Option.bind_some, run_append,
    hclose, Option.bind_some, run_append, run_escapeUrl, Option.bind_some]
  simp [Reader.step]

/-- A `>` at the start of a line quotes the escaped text after it. -/
theorem emits_quote (cs : List Char) :
    ∃ b', Emits true b' ('>' :: escape cs) (.quote :: cs.map .char) := by
  refine ⟨lineStart false cs, fun out => ?_⟩
  have hquote : Reader.step ⟨.text true, false, false, out⟩ '>'
      = some ⟨.text false, false, false, out ++ [.quote]⟩ := rfl
  rw [run_cons, hquote, Option.bind_some, run_escape, List.append_assoc, List.singleton_append]

/-- The tokens of quoted lines. -/
def quoteTokens (ls : List (List Char)) : List Token :=
  [Token.char '\n'].intercalate (ls.map fun l => .quote :: l.map .char)

/-- Escaped lines, each behind a `>` and joined by line feeds, are read as quoted lines. -/
theorem emits_quotes (ls : List (List Char)) :
    ∃ b', Emits true b' (['\n'].intercalate (ls.map fun l => '>' :: escape l))
      (quoteTokens ls) := by
  induction ls with
  | nil => exact ⟨true, .nil true⟩
  | cons l ls ih =>
    obtain ⟨b, hb⟩ := emits_quote l
    cases ls with
    | nil => exact ⟨b, by simpa [quoteTokens] using hb⟩
    | cons l' ls =>
      obtain ⟨b', hb'⟩ := ih
      have hnewline : Emits b true ['\n'] [.char '\n'] := fun out =>
        run_plain (by decide) b false false out
      refine ⟨b', ?_⟩
      have happend := (hb.append hnewline).append hb'
      simpa [quoteTokens, List.intercalate_cons_cons] using happend

theorem quoteTokens_cons_cons (l l' : List Char) (ls : List (List Char)) :
    quoteTokens (l :: l' :: ls) =
      (.quote :: l.map .char) ++ [.char '\n'] ++ quoteTokens (l' :: ls) := by
  simp [quoteTokens, List.intercalate_cons_cons]

@[simp]
theorem visible_quoteTokens (ls : List (List Char)) :
    visible (quoteTokens ls) = ['\n'].intercalate ls := by
  induction ls with
  | nil => rfl
  | cons l ls ih =>
    have hline : visible (.quote :: l.map .char) = l := visible_map_char l
    cases ls with
    | nil => simpa [quoteTokens] using hline
    | cons l' ls =>
      rw [quoteTokens_cons_cons, visible_append, visible_append, hline, ih,
        List.intercalate_cons_cons]
      rfl

/-- A message that emits tokens from its start is read as them. -/
theorem read_of_emits (b' : Bool) (h : Emits true b' cs ts) : read cs = some ts := by
  have hrun := h []
  rw [List.nil_append] at hrun
  rw [read, hrun]

end

end MarkdownV2
